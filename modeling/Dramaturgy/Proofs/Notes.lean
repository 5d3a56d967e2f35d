import Dramaturgy.Proofs.Action
import Dramaturgy.Proofs.Performance

/-!
# What is noted

Two sorts of notes are taken in a performance, and they can be told apart: `Note.steps` and
`Note.warnings`. Steps say what has been done. What comes into the graph is noted at that moment,
and nothing else is (`Stage.Adds`). Warnings come from the text of the script. They stand among the
cues from the beginning (`Script.severity_of_mem_told_cues`), and the stage passes them on as they
are (`Stage.warnings_takeAll`).
-/

namespace Dramaturgy

/-- The note of a node that is added. -/
def Node.note (n : Node) : Note :=
  .node n.id n.kind

/-- The note of an edge that is added. -/
def Edge.note (e : Edge) : Note :=
  .edge e.source e.target e.label

namespace Note

/-- The notes that tell what has been done. -/
def steps (notes : List Note) : List Note :=
  notes.filter (·.severity = .debug)

/-- The notes that warn. -/
def warnings (notes : List Note) : List Note :=
  notes.filter (·.severity = .warn)

variable {notes : List Note}

@[simp] theorem steps_nil : steps [] = [] := rfl

@[simp] theorem warnings_nil : warnings [] = [] := rfl

@[simp] theorem steps_append (first rest : List Note) :
    steps (first ++ rest) = steps first ++ steps rest :=
  List.filter_append ..

@[simp] theorem warnings_append (first rest : List Note) :
    warnings (first ++ rest) = warnings first ++ warnings rest :=
  List.filter_append ..

theorem steps_eq_nil (h : ∀ note ∈ notes, note.severity = .warn) : steps notes = [] := by
  refine List.filter_eq_nil_iff.mpr fun note hnote => ?_
  rw [h note hnote]
  decide

theorem warnings_eq_self (h : ∀ note ∈ notes, note.severity = .warn) : warnings notes = notes :=
  List.filter_eq_self.mpr fun note hnote => decide_eq_true (h note hnote)

theorem steps_eq_self (h : ∀ note ∈ notes, note.severity = .debug) : steps notes = notes :=
  List.filter_eq_self.mpr fun note hnote => decide_eq_true (h note hnote)

theorem warnings_eq_nil (h : ∀ note ∈ notes, note.severity = .debug) : warnings notes = [] := by
  refine List.filter_eq_nil_iff.mpr fun note hnote => ?_
  rw [h note hnote]
  decide

/-- The notes of some nodes and, after them, some edges. -/
def additions (nodes : List Node) (edges : List Edge) : List Note :=
  nodes.map (·.note) ++ edges.map (·.note)

theorem severity_of_mem_additions {nodes : List Node} {edges : List Edge} :
    ∀ note ∈ additions nodes edges, note.severity = .debug := by
  intro note hnote
  rcases List.mem_append.mp hnote with hnote | hnote
  · obtain ⟨n, -, rfl⟩ := List.mem_map.mp hnote
    rfl
  · obtain ⟨e, -, rfl⟩ := List.mem_map.mp hnote
    rfl

@[simp] theorem steps_additions (nodes : List Node) (edges : List Edge) :
    steps (additions nodes edges) = additions nodes edges :=
  steps_eq_self severity_of_mem_additions

@[simp] theorem warnings_additions (nodes : List Node) (edges : List Edge) :
    warnings (additions nodes edges) = [] :=
  warnings_eq_nil severity_of_mem_additions

end Note

namespace Cue

/-- The note that a cue only takes. -/
def told? : Cue → Option Note
  | .tell note => some note
  | _ => none

/-- The notes that stand among some cues. -/
def told (cues : List Cue) : List Note :=
  cues.filterMap (·.told?)

@[simp] theorem told_nil : told [] = [] := rfl

@[simp] theorem told_cons (cue : Cue) (cues : List Cue) :
    told (cue :: cues) = cue.told?.toList ++ told cues := by
  cases cue <;> rfl

@[simp] theorem told_append (first rest : List Cue) :
    told (first ++ rest) = told first ++ told rest :=
  List.filterMap_append ..

@[simp] theorem told_map_tell (notes : List Note) : told (notes.map .tell) = notes := by
  induction notes with
  | nil => rfl
  | cons note notes ih =>
    rw [List.map_cons, told_cons, ih]
    rfl

theorem told_flatMap {α : Type} (xs : List α) (f : α → List Cue) :
    told (xs.flatMap f) = xs.flatMap fun x => told (f x) :=
  List.filterMap_flatMap ..

@[simp] theorem told_ite_tell (p : Prop) [Decidable p] (note : Note) :
    told (if p then [] else [.tell note]) = if p then [] else [note] := by
  split <;> rfl

end Cue

namespace Stage

variable {s s₁ s' : Stage} {cue : Cue} {nodes : List Node} {edges : List Edge}

/-! ## What comes into the graph is noted -/

/-- A stage goes on from another one. It has added some nodes and then some edges, and has noted
these and nothing else. -/
structure Adds (s : Stage) (nodes : List Node) (edges : List Edge) (s' : Stage) : Prop where
  graph : s'.graph = { nodes := s.graph.nodes ++ nodes, edges := s.graph.edges ++ edges }
  notes : s'.notes = s.notes ++ Note.additions nodes edges

theorem adds_of_same (hgraph : s'.graph = s.graph) (hnotes : s'.notes = s.notes) :
    s.Adds [] [] s' where
  graph := by rw [hgraph, List.append_nil, List.append_nil]
  notes := by rw [hnotes, Note.additions, List.map_nil, List.map_nil, List.append_nil,
    List.append_nil]

theorem Adds.edges_after (h : s.Adds nodes [] s₁) (h' : s₁.Adds [] edges s') :
    s.Adds nodes edges s' where
  graph := by rw [h'.graph, h.graph, List.append_nil, List.append_nil]
  notes := by simp [h'.notes, h.notes, Note.additions]

theorem adds_addNode {n : Node} {created : Bool} (h : s.addNode n = (.ok created, s')) :
    ∃ nodes, s.Adds nodes [] s' := by
  cases hn : s.graph.node? n.id with
  | none =>
    rw [addNode_of_none hn] at h
    cases h
    exact ⟨[n], by simp, rfl⟩
  | some m =>
    -- the id is taken: nothing is added and nothing is noted
    by_cases hk : m.kind = n.kind
    · rw [addNode_of_same_kind hn hk] at h
      cases h
      exact ⟨[], adds_of_same rfl rfl⟩
    · rw [addNode_of_other_kind hn hk] at h
      cases h

theorem adds_address {speaker text : String} {target : Target} {tags : List String}
    (h : s.address speaker target text tags = (.ok (), s')) :
    s.Adds [] [s.edgeTo speaker target text tags] s' := by
  rcases s.graph.addEdge_cases (s.edgeTo speaker target text tags) with
    ⟨hs, ht, -⟩ | ⟨endpoint, hdangling⟩
  · have hnotes : s.graph.edgeNotes (s.edgeTo speaker target text tags)
        = [(s.edgeTo speaker target text tags).note] := by
      rw [Graph.edgeNotes, hs, ht]
      rfl
    rw [address_of_contains hs ht, hnotes] at h
    cases h
    exact ⟨by simp, rfl⟩
  · rw [address, addEdge, hdangling] at h
    cases h

theorem adds_addDirection {text : String} {index : Nat}
    (h : s.addDirection text = (.ok index, s')) : ∃ nodes, s.Adds nodes [] s' := by
  rw [addDirection_eq_proceed] at h
  obtain ⟨created, s₁, hnode, hrest⟩ := proceed_eq_ok h
  cases hrest
  obtain ⟨nodes, hadds⟩ := adds_addNode hnode
  exact ⟨nodes, hadds.graph, hadds.notes⟩

theorem adds_direct {speaker : Option String} {text : String}
    (h : s.direct speaker text = (.ok (), s')) : ∃ nodes edges, s.Adds nodes edges s' := by
  rw [direct_eq_proceed] at h
  obtain ⟨index, s₁, hdirection, hrest⟩ := proceed_eq_ok h
  obtain ⟨nodes, hadds⟩ := adds_addDirection hdirection
  cases speaker with
  | none =>
    cases hrest
    exact ⟨nodes, [], hadds⟩
  | some name => exact ⟨nodes, _, hadds.edges_after (adds_address hrest)⟩

theorem adds_giveFloor {previous : Option String} {speaker : Character}
    (h : s.giveFloor previous speaker = (.ok (), s')) : ∃ nodes edges, s.Adds nodes edges s' := by
  rw [giveFloor_eq_proceed] at h
  obtain ⟨created, s₁, henter, hrest⟩ := proceed_eq_ok h
  obtain ⟨nodes, hadds⟩ := adds_addNode henter
  split at hrest
  · split at hrest
    · cases hrest
      exact ⟨nodes, [], hadds⟩
    · exact ⟨nodes, _, hadds.edges_after (adds_address hrest)⟩
  · cases hrest
    exact ⟨nodes, [], hadds⟩

theorem adds_exchange {speaker text : String} {listener : Character} {tags : List String}
    (h : s.exchange speaker listener text tags = (.ok (), s')) :
    ∃ nodes edges, s.Adds nodes edges s' := by
  rw [exchange_eq_proceed] at h
  obtain ⟨created, s₁, henter, hrest⟩ := proceed_eq_ok h
  obtain ⟨nodes, hadds⟩ := adds_addNode henter
  exact ⟨nodes, _, hadds.edges_after (adds_address hrest)⟩

/-- A scene that opens is noted after what it adds. -/
theorem adds_take_scene (h : s.take .scene = (.ok (), s')) :
    ∃ nodes s₁, s.Adds nodes [] s₁ ∧ s' = s₁.tell [.scene s₁.sceneLabel] := by
  rw [take_scene_eq_proceed, openScene_eq_proceed] at h
  obtain ⟨node, s₁, hopen, hrest⟩ := proceed_eq_ok h
  obtain ⟨created, s₂, hnode, hscene⟩ := proceed_eq_ok hopen
  cases hscene
  cases hrest
  obtain ⟨nodes, hadds⟩ := adds_addNode hnode
  exact ⟨nodes, s₁, ⟨hadds.graph, hadds.notes⟩, rfl⟩

theorem notes_take_act (h : s.take .act = (.ok (), s')) :
    s'.notes = s.notes ++ [.act s'.actLabel] := by
  have hopen : s.openAct = (.ok (), s') := h
  unfold openAct at hopen
  split at hopen
  · cases hopen
  · cases hopen
    rfl

/-! ## Warnings are passed on -/

theorem Adds.warnings_eq (h : s.Adds nodes edges s') :
    Note.warnings s'.notes = Note.warnings s.notes := by
  rw [h.notes, Note.warnings_append, Note.warnings_additions, List.append_nil]

/-- A cue that is taken has no warning but the one that it tells. -/
theorem warnings_take (h : s.take cue = (.ok (), s')) :
    Note.warnings s'.notes = Note.warnings s.notes ++ Note.warnings cue.told?.toList := by
  cases cue with
  | tell note =>
    cases h
    exact Note.warnings_append ..
  | act =>
    rw [notes_take_act h, Note.warnings_append]
    rfl
  | scene =>
    obtain ⟨nodes, s₁, hadds, rfl⟩ := adds_take_scene h
    show Note.warnings (s₁.notes ++ [.scene s₁.sceneLabel]) = _
    rw [Note.warnings_append, hadds.warnings_eq]
    rfl
  | direction speaker text =>
    obtain ⟨nodes, edges, hadds⟩ := adds_direct h
    exact hadds.warnings_eq.trans (List.append_nil _).symm
  | floor previous speaker =>
    obtain ⟨nodes, edges, hadds⟩ := adds_giveFloor h
    exact hadds.warnings_eq.trans (List.append_nil _).symm
  | address speaker listener text tags =>
    obtain ⟨nodes, edges, hadds⟩ := adds_exchange h
    exact hadds.warnings_eq.trans (List.append_nil _).symm
  | fail fault => cases h

/-- Cues that are all taken have no warnings but those that stand among them. -/
theorem warnings_takeAll : ∀ {cues : List Cue} {s s' : Stage}, s.takeAll cues = (.ok (), s') →
    Note.warnings s'.notes = Note.warnings s.notes ++ Note.warnings (Cue.told cues)
  | [], s, s', h => by
    cases h
    exact (List.append_nil _).symm
  | cue :: cues, s, s', h => by
    rw [takeAll_cons_eq_proceed] at h
    obtain ⟨⟨⟩, s₁, htake, hrest⟩ := proceed_eq_ok h
    rw [warnings_takeAll hrest, warnings_take htake, Cue.told_cons, Note.warnings_append,
      List.append_assoc]

end Stage

/-! ## The notes of a script -/

theorem Report.notes_andThen {α β : Type} {r : Report α} {a : α} (f : α → Report β)
    (h : r.outcome = .ok a) : (r.andThen f).notes = r.notes ++ (f a).notes := by
  rw [andThen, h]

namespace Vocabulary

variable {v : Vocabulary} {roster : Roster}

theorem severity_of_mem_entryNotes {name value : String} {note : Note}
    (h : note ∈ Character.entryNotes v name value) : note.severity = .warn := by
  unfold Character.entryNotes at h
  split at h
  · rw [List.mem_singleton.mp h]
    rfl
  · cases h

theorem severity_of_mem_directionNotes {line : String} {note : Note}
    (h : note ∈ v.directionNotes line) : note.severity = .warn := by
  unfold directionNotes at h
  split at h
  · cases h
  · rw [List.mem_singleton.mp h]
    rfl

theorem severity_of_mem_lineNotes {line : String} {note : Note} (h : note ∈ Line.notes v line) :
    note.severity = .warn := by
  unfold Line.notes at h
  split at h
  · exact severity_of_mem_directionNotes h
  · rw [List.mem_singleton.mp h]
    rfl
  · obtain ⟨token, -, htoken⟩ := List.mem_flatMap.mp h
    unfold Addressee.tokenNotes at htoken
    split at htoken
    · rw [List.mem_singleton.mp htoken]
      rfl
    · cases htoken

/-- A line has nothing to tell but what reading it has. -/
theorem told_lineCues (speaker line : String) :
    Cue.told (v.lineCues roster speaker line) = Line.notes v line := by
  have hcues : ∀ d : Dialogue, Cue.told (d.cues roster speaker) = [] := by
    intro d
    refine List.filterMap_eq_nil_iff.mpr fun cue hcue => ?_
    obtain ⟨a, -, rfl⟩ := List.mem_map.mp hcue
    cases roster.lookup a.name <;> rfl
  rw [lineCues, Cue.told_append, Cue.told_map_tell]
  cases Line.ofText v line with
  | direction text => exact List.append_nil _
  | dialogue d =>
    simp only [hcues]
    exact List.append_nil _

theorem severity_of_mem_told_remarkCues {note : Note} : ∀ (remarks : List Remark)
    (speaker : Option String), note ∈ Cue.told (v.remarkCues roster speaker remarks) →
    note.severity = .warn
  | [], speaker, h => by cases h
  | .direction text :: remarks, speaker, h => by
    cases hend : v.closesScene (.direction text) with
    | true =>
      rw [remarkCues_of_closes hend, Cue.told_ite_tell] at h
      split at h
      · cases h
      · rw [List.mem_singleton.mp h]
        rfl
    | false =>
      rw [remarkCues_direction hend, Cue.told_append, Cue.told_map_tell, List.mem_append] at h
      rcases h with h | h
      · exact severity_of_mem_directionNotes h
      · exact severity_of_mem_told_remarkCues remarks speaker h
  | .speech record :: remarks, speaker, h => by
    rcases remarkCues_speech_cases v roster record with ⟨fault, hcues⟩ | ⟨_, _, c, -, -, hcues⟩
    · rw [hcues] at h
      cases h
    · simp only [hcues, Cue.told_append, Cue.told_cons, Cue.told_flatMap, told_lineCues] at h
      rcases List.mem_append.mp h with h | h
      · obtain ⟨line, -, hline⟩ := List.mem_flatMap.mp h
        exact severity_of_mem_lineNotes hline
      · exact severity_of_mem_told_remarkCues remarks _ h

theorem severity_of_mem_told_actCues {note : Note} : ∀ (entries : List SceneEntry) (number : Nat),
    note ∈ Cue.told (v.actCues roster number entries) → note.severity = .warn
  | [], number, h => by cases h
  | entry :: entries, number, h => by
    cases hend : v.closesAct entry with
    | true =>
      rw [actCues_of_closes hend, Cue.told_ite_tell] at h
      split at h
      · cases h
      · rw [List.mem_singleton.mp h]
        rfl
    | false =>
      rw [actCues_cons hend, Cue.told_append, sceneCues, Cue.told_cons] at h
      rcases List.mem_append.mp h with h | h
      · cases hr : entry.remarks (v.sceneLabel number) with
        | error fault =>
          rw [hr] at h
          cases h
        | ok remarks =>
          rw [hr] at h
          exact severity_of_mem_told_remarkCues remarks none h
      · exact severity_of_mem_told_actCues entries _ h

end Vocabulary

namespace Script

variable {v : Vocabulary} {script : Script} {roster : Roster}

theorem severity_of_mem_actNotes {label : String} {note : Note}
    (h : note ∈ script.actNotes label) : note.severity = .warn := by
  unfold actNotes at h
  split at h
  · cases h
  · split at h
    · rw [List.mem_singleton.mp h]
      rfl
    · cases h

/-- The cues of a script have nothing to tell but warnings. -/
theorem severity_of_mem_told_cues {note : Note} (h : note ∈ Cue.told (script.cues v roster)) :
    note.severity = .warn := by
  rw [cues, Cue.told_append, Cue.told_cons, Cue.told_map_tell] at h
  rcases List.mem_append.mp h with h | h
  · exact severity_of_mem_actNotes h
  · cases ha : script.act (v.actLabel 1) with
    | error fault =>
      rw [ha] at h
      cases h
    | ok entries =>
      rw [ha] at h
      exact Vocabulary.severity_of_mem_told_actCues entries 1 h

/-- What reading the roster of a script has to tell. -/
def rosterNotes (v : Vocabulary) (script : Script) : List Note :=
  script.writtenEntries.flatMap fun (name, value) => Character.entryNotes v name value

theorem severity_of_mem_rosterNotes {note : Note} (h : note ∈ script.rosterNotes v) :
    note.severity = .warn := by
  obtain ⟨entry, -, hentry⟩ := List.mem_flatMap.mp h
  exact Vocabulary.severity_of_mem_entryNotes hentry

/-- The notes of a roster that can be read. -/
theorem notes_enroll : ∀ {entries : List (String × String)} {r r' : Roster},
    (r.enroll v entries).outcome = .ok r' →
    (r.enroll v entries).notes = entries.flatMap fun (name, value) =>
      Character.entryNotes v name value
  | [], r, r', h => rfl
  | (name, value) :: entries, r, r', h => by
    rw [Roster.enroll, Report.outcome_andThen] at h
    rw [Roster.enroll]
    cases hi : r.insert (.ofEntry v name value) with
    | error fault =>
      rw [hi] at h
      cases h
    | ok grown =>
      rw [hi] at h
      rw [Report.notes_andThen _ rfl, notes_enroll h]
      rfl

theorem notes_roster (h : (script.roster v).outcome = .ok roster) :
    (script.roster v).notes = script.rosterNotes v := by
  unfold Script.roster rosterEntries at h ⊢
  rcases mapM_only_cases .rosterEntry script.characters with ⟨-, hok⟩ | ⟨fault, -, -, herr⟩
  · rw [hok] at h ⊢
    exact notes_enroll h
  · rw [herr] at h
    cases h

/-- A performance that comes to its end has the notes of the roster and then those of the stage. -/
theorem notes_perform {play : Play} (h : (script.perform v).outcome = .ok play) :
    ∃ s : Stage, ({ vocabulary := v } : Stage).takeAll (script.cues v (script.writtenRoster v))
        = (.ok (), s) ∧
      play.graph = s.graph ∧ (script.perform v).notes = script.rosterNotes v ++ s.notes := by
  rcases roster_cases v script with ⟨-, hroster⟩ | ⟨fault, -, -, hroster⟩
  · obtain ⟨outcome, s, htakes⟩ : ∃ outcome s,
        ({ vocabulary := v } : Stage).takeAll (script.cues v (script.writtenRoster v))
          = (outcome, s) := ⟨_, _, rfl⟩
    have hgraph := outcome_graph htakes
    have hnotes : (script.graph v (script.writtenRoster v)).notes = s.notes := by
      rw [graph, htakes]
    rw [perform, Report.outcome_andThen, hroster] at h
    rw [perform, Report.notes_andThen _ hroster, notes_roster hroster]
    cases outcome with
    | error fault =>
      simp only [Except.bind, Report.outcome_andThen, hgraph] at h
      cases h
    | ok done =>
      simp only [Except.bind, Report.outcome_andThen, hgraph] at h
      cases h
      refine ⟨s, htakes, rfl, ?_⟩
      rw [Report.notes_andThen _ hgraph, hnotes]
      simp [Report.silent]
  · rw [perform, Report.outcome_andThen, hroster] at h
    cases h

end Script

end Dramaturgy
