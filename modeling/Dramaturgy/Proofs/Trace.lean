import Dramaturgy.Proofs.Notes
import Dramaturgy.Proofs.WellFormed

/-!
# The steps of a performance

Which steps are noted follows from the events of the script, as the graph does. `Vocabulary.trace`
is for the steps what `Vocabulary.outline` is for the graph: it tells of the same nodes and the same
edges (`filterMap_node?_trace`, `filterMap_edge?_trace`). The stage is followed through both at once,
an event at a time (`Within.notes_take`), then through a scene (`Within.steps_takeAll`), an act and a
script (`Script.steps_of_perform`).
-/

namespace Dramaturgy

open Event

/-! ## What a step tells -/

namespace Note

/-- The act that a note tells of. -/
def act? : Note → Option String
  | .act label => some label
  | _ => none

/-- The scene that a note tells of, by its label. -/
def scene? : Note → Option String
  | .scene label => some label
  | _ => none

/-- The id and the kind of the node that a note tells of. -/
def node? : Note → Option (String × NodeKind)
  | .node id kind => some (id, kind)
  | _ => none

/-- The ends and the label of the edge that a note tells of. -/
def edge? : Note → Option (String × String × String)
  | .edge source target label => some (source, target, label)
  | _ => none

end Note

/-! ## The trace of events -/

/-- The steps of an event, after those before it in the scene. -/
def Event.steps (scene : String) (past : List (Event Character)) (e : Event Character) :
    List Note :=
  Note.additions (e.nodes scene past) (e.edges scene past)

namespace Vocabulary

/-- The steps of a scene: its node is added, it begins, and its events follow. -/
def sceneSteps (v : Vocabulary) (number : Nat) (events : List (Event Character)) : List Note :=
  (v.sceneNode number).note :: .scene (v.sceneLabel number) ::
    inTurn (Event.steps (v.sceneId 1 number)) events

/-- The steps of some scenes, the first of which has number one. -/
def trace (v : Vocabulary) (scenes : List (List (Event Character))) : List Note :=
  .act (v.actLabel 1) :: (scenes.zipIdx 1).flatMap fun (events, number) =>
    v.sceneSteps number events

variable {v : Vocabulary} {done scenes : List (List (Event Character))}
  {current events : List (Event Character)} {number : Nat}

theorem trace_append_singleton :
    v.trace (done ++ [current]) = v.trace done ++ v.sceneSteps (done.length + 1) current := by
  simp [trace, List.zipIdx_append, Nat.add_comm]

/-- A scene that begins adds two steps. -/
theorem trace_open : v.trace (done ++ [[]]) = v.trace done ++
    [(v.sceneNode (done.length + 1)).note, .scene (v.sceneLabel (done.length + 1))] := by
  rw [trace_append_singleton, sceneSteps, inTurn_nil]

/-- An event adds its steps. -/
theorem trace_event (e : Event Character) : v.trace (done ++ [current ++ [e]])
    = v.trace (done ++ [current]) ++ e.steps (v.sceneId 1 (done.length + 1)) current := by
  rw [trace_append_singleton, trace_append_singleton, sceneSteps, sceneSteps,
    inTurn_append_singleton, List.append_assoc, List.cons_append, List.cons_append]

/-! ### What is told -/

theorem filterMap_inTurn {α β γ : Type} (g : α → Option γ) (f : List β → β → List α) (zs : List β) :
    (inTurn f zs).filterMap g = inTurn (fun past z => (f past z).filterMap g) zs :=
  List.filterMap_flatMap ..

section Told

variable {γ : Type} (g : Note → Option γ)

theorem filterMap_cons_eq (note : Note) (notes : List Note) :
    (note :: notes).filterMap g = (g note).toList ++ notes.filterMap g := by
  rw [List.filterMap_cons]
  cases g note <;> rfl

theorem filterMap_trace : (v.trace scenes).filterMap g = (g (.act (v.actLabel 1))).toList ++
    (scenes.zipIdx 1).flatMap fun (events, number) => (v.sceneSteps number events).filterMap g := by
  rw [trace, filterMap_cons_eq, List.filterMap_flatMap]

theorem filterMap_sceneSteps : (v.sceneSteps number events).filterMap g
    = (g (v.sceneNode number).note).toList ++ ((g (.scene (v.sceneLabel number))).toList ++
        inTurn (fun past e => (e.steps (v.sceneId 1 number) past).filterMap g) events) := by
  rw [sceneSteps, filterMap_cons_eq, filterMap_cons_eq, filterMap_inTurn]

theorem filterMap_steps (scene : String) (past : List (Event Character)) (e : Event Character) :
    (e.steps scene past).filterMap g = (e.nodes scene past).filterMap (fun n => g n.note) ++
      (e.edges scene past).filterMap fun d => g d.note := by
  rw [Event.steps, Note.additions, List.filterMap_append, List.filterMap_map, List.filterMap_map]
  rfl

end Told

theorem filterMap_node?_trace : (v.trace scenes).filterMap Note.node?
    = (v.outline scenes).nodes.map fun n => (n.id, n.kind) := by
  have hsteps : ∀ scene past e, (Event.steps scene past e).filterMap Note.node?
      = (e.nodes scene past).map fun n => (n.id, n.kind) := by
    intro scene past e
    rw [filterMap_steps]
    simp [Node.note, Edge.note, Note.node?]
  have hscene : ∀ number events, (v.sceneSteps number events).filterMap Note.node?
      = (v.sceneNodes number events).map fun n => (n.id, n.kind) := by
    intro number events
    rw [filterMap_sceneSteps, sceneNodes, List.map_cons, map_inTurn]
    simp only [hsteps]
    rfl
  rw [filterMap_trace, outline, List.map_flatMap]
  simp only [hscene]
  rfl

theorem filterMap_edge?_trace : (v.trace scenes).filterMap Note.edge?
    = (v.outline scenes).edges.map fun e => (e.source, e.target, e.label) := by
  have hsteps : ∀ scene past e, (Event.steps scene past e).filterMap Note.edge?
      = (e.edges scene past).map fun d => (d.source, d.target, d.label) := by
    intro scene past e
    rw [filterMap_steps]
    simp [Node.note, Edge.note, Note.edge?]
  have hscene : ∀ number events, (v.sceneSteps number events).filterMap Note.edge?
      = (v.sceneEdges number events).map fun e => (e.source, e.target, e.label) := by
    intro number events
    rw [filterMap_sceneSteps, sceneEdges, map_inTurn]
    simp only [hsteps]
    rfl
  rw [filterMap_trace, outline, List.map_flatMap]
  simp only [hscene]
  rfl

/-- The steps of events tell of neither acts nor scenes. -/
theorem filterMap_inTurn_steps_eq_nil {γ : Type} {g : Note → Option γ}
    (hnode : ∀ n : Node, g n.note = none) (hedge : ∀ e : Edge, g e.note = none) (scene : String)
    (events : List (Event Character)) :
    inTurn (fun past e => (e.steps scene past).filterMap g) events = [] := by
  refine List.flatMap_eq_nil_iff.mpr fun ⟨e, i⟩ _ => ?_
  show (e.steps scene (events.take i)).filterMap g = []
  rw [filterMap_steps]
  simp [hnode, hedge]

theorem filterMap_scene?_trace : (v.trace scenes).filterMap Note.scene?
    = ((v.outline scenes).nodes.filter (·.kind = .scene)).map (·.label) := by
  have hnodes : ∀ number events, (v.sceneNodes number events).filter (·.kind = .scene)
      = [v.sceneNode number] := by
    intro number events
    have hnone : (inTurn (Event.nodes (v.sceneId 1 number)) events).filter (·.kind = .scene)
        = [] := by
      refine List.filter_eq_nil_iff.mpr fun n hn => ?_
      rcases mem_nodes_cases hn with ⟨past, text, rest, -, rfl⟩ | ⟨c, -, rfl⟩
      · simp [Node.ofDirection]
      · simp [Node.ofCharacter]
    rw [sceneNodes, List.filter_cons_of_pos (by simp [sceneNode]), hnone]
  have hscene : ∀ number events, (v.sceneSteps number events).filterMap Note.scene?
      = [v.sceneLabel number] := by
    intro number events
    rw [filterMap_sceneSteps, filterMap_inTurn_steps_eq_nil (fun _ => rfl) (fun _ => rfl)]
    rfl
  rw [filterMap_trace, outline, List.filter_flatMap, List.map_flatMap]
  simp only [hscene, hnodes]
  rfl

theorem filterMap_act?_trace : (v.trace scenes).filterMap Note.act? = [v.actLabel 1] := by
  have hscene : ∀ number events, (v.sceneSteps number events).filterMap Note.act? = [] := by
    intro number events
    rw [filterMap_sceneSteps, filterMap_inTurn_steps_eq_nil (fun _ => rfl) (fun _ => rfl)]
    rfl
  rw [filterMap_trace]
  simp only [hscene]
  simp [Note.act?]

end Vocabulary

/-! ## The steps that are noted -/

theorem Cue.Performs.adds {past : List (Event Character)} {cue : Cue} {e : Event Character}
    {s s' : Stage} (hp : cue.Performs past e) (h : s.take cue = (.ok (), s')) :
    ∃ nodes edges, s.Adds nodes edges s' := by
  cases hp with
  | direction text => exact Stage.adds_direct h
  | speech c => exact Stage.adds_giveFloor h
  | address c text tags hf => exact Stage.adds_exchange h

namespace Stage

variable {s s' : Stage} {v : Vocabulary} {roster : Roster} {cue : Cue} {cues : List Cue}
  {done : List (List (Event Character))} {past : List (Event Character)} {e : Event Character}
  {r : Option (List (Event Character))}

/-- A cue that is taken has performed its event, and no name clashes. -/
theorem Within.of_take (h : s.Within v done past) (hp : cue.Performs past e) (hu : Unclashed past)
    (htake : s.take cue = (.ok (), s')) :
    Unclashed (past ++ [e]) ∧ s'.Within v done (past ++ [e]) := by
  have hue : Unclashed (past ++ [e]) := by
    by_contra hclash
    obtain ⟨id, s₁, hfail⟩ := h.take_of_clash hp hu hclash
    rw [htake] at hfail
    cases hfail
  obtain ⟨s₁, htake₁, hs₁⟩ := h.take_of_unclashed hp hue
  rw [htake] at htake₁
  cases htake₁
  exact ⟨hue, hs₁⟩

/-- A cue that performs an event has the steps of that event noted. -/
theorem Within.notes_take (h : s.Within v done past) (hp : cue.Performs past e)
    (htake : s.take cue = (.ok (), s')) (hs' : s'.Within v done (past ++ [e])) :
    s'.notes = s.notes ++ e.steps (v.sceneId 1 (done.length + 1)) past := by
  obtain ⟨nodes, edges, hadds⟩ := hp.adds htake
  -- what has been added is what the graph has now and has not had before
  have hgraph := hadds.graph
  rw [h.graph, hs'.graph, Vocabulary.outline_event, Graph.mk.injEq, List.append_cancel_left_eq,
    List.append_cancel_left_eq] at hgraph
  rw [hadds.notes, ← hgraph.1, ← hgraph.2]
  rfl

/-- The steps of a scene are noted while its cues are taken. -/
theorem Within.steps_takeAll (he : Enacts past cues r) : ∀ {s : Stage}, s.Within v done past →
    Unclashed past → Note.steps (Cue.told cues) = [] → s.takeAll cues = (.ok (), s') →
    Note.steps s.notes = v.trace (done ++ [past]) →
    ∃ events, s'.Within v done (past ++ events) ∧
      Note.steps s'.notes = v.trace (done ++ [past ++ events]) := by
  induction he with
  | nil past =>
    intro s hs hu htold htakes hsteps
    cases htakes
    exact ⟨[], by rwa [List.append_nil], by rwa [List.append_nil]⟩
  | @tell past cues r note _ ih =>
    intro s hs hu htold htakes hsteps
    obtain ⟨hnote, hrest⟩ : Note.steps [note] = [] ∧ Note.steps (Cue.told cues) = [] := by
      rwa [Cue.told_cons, Note.steps_append, List.append_eq_nil_iff] at htold
    refine ih (hs.tell [note]) hu hrest htakes ?_
    show Note.steps (s.notes ++ [note]) = _
    rw [Note.steps_append, hnote, List.append_nil, hsteps]
  | fail cues hf =>
    intro s hs hu htold htakes
    cases htakes
  | @event past cue e cues r hp _ ih =>
    intro s hs hu htold htakes hsteps
    rw [takeAll_cons_eq_proceed] at htakes
    obtain ⟨⟨⟩, s₁, htake, hrest⟩ := proceed_eq_ok htakes
    obtain ⟨hue, hs₁⟩ := hs.of_take hp hu htake
    have hsteps₁ : Note.steps s₁.notes = v.trace (done ++ [past ++ [e]]) := by
      rw [hs.notes_take hp htake hs₁, Note.steps_append, hsteps, Vocabulary.trace_event, Event.steps,
        Note.steps_additions]
    have htold₁ : Note.steps (Cue.told cues) = [] := by
      rw [Cue.told_cons, Note.steps_append, List.append_eq_nil_iff] at htold
      exact htold.2
    obtain ⟨events, hs', hsteps'⟩ := ih hs₁ hue htold₁ hrest hsteps₁
    rw [List.append_assoc] at hs' hsteps'
    exact ⟨e :: events, hs', hsteps'⟩

/-- A scene that opens has two steps noted. -/
theorem Between.steps_take_scene (h : s.Between v done) (htake : s.take .scene = (.ok (), s'))
    (hsteps : Note.steps s.notes = v.trace done) :
    s'.Within v done [] ∧ Note.steps s'.notes = v.trace (done ++ [[]]) := by
  have hs' : s'.Within v done [] := by
    obtain ⟨s₂, htake₂, hs₂⟩ := h.take_scene
    rw [htake] at htake₂
    cases htake₂
    exact hs₂
  obtain ⟨nodes, s₁, hadds, rfl⟩ := adds_take_scene htake
  have hnodes : nodes = [v.sceneNode (done.length + 1)] := by
    have hgraph := hs'.graph
    rw [Vocabulary.outline_open] at hgraph
    have hsame : s₁.graph = _ := hgraph
    rw [hadds.graph, h.graph, Graph.mk.injEq, List.append_cancel_left_eq] at hsame
    exact hsame.1
  have hlabel : s₁.sceneLabel = v.sceneLabel (done.length + 1) := by
    rw [← hs'.scene, ← hs'.vocabulary]
    rfl
  refine ⟨hs', ?_⟩
  show Note.steps (s₁.notes ++ [.scene s₁.sceneLabel]) = _
  rw [hadds.notes, Note.steps_append, Note.steps_append, Note.steps_additions, hsteps, hnodes,
    hlabel, Vocabulary.trace_open, List.append_assoc]
  rfl

theorem Between.steps_takeAll_sceneCues {entry : SceneEntry} (h : s.Between v done)
    (htakes : s.takeAll (v.sceneCues roster (done.length + 1) entry) = (.ok (), s'))
    (hsteps : Note.steps s.notes = v.trace done) :
    ∃ events, s'.Between v (done ++ [events]) ∧
      Note.steps s'.notes = v.trace (done ++ [events]) := by
  unfold Vocabulary.sceneCues at htakes
  rw [takeAll_cons_eq_proceed] at htakes
  obtain ⟨⟨⟩, s₁, htake, hrest⟩ := proceed_eq_ok htakes
  obtain ⟨hs₁, hsteps₁⟩ := h.steps_take_scene htake hsteps
  cases hr : entry.remarks (v.sceneLabel (done.length + 1)) with
  | error fault =>
    rw [hr] at hrest
    cases hrest
  | ok remarks =>
    rw [hr] at hrest
    have htold : Note.steps (Cue.told (v.remarkCues roster none remarks)) = [] :=
      Note.steps_eq_nil fun _ => Vocabulary.severity_of_mem_told_remarkCues remarks none
    obtain ⟨events, hs', hsteps'⟩ := Within.steps_takeAll
      (Vocabulary.enacts_remarkCues remarks []) hs₁ unclashed_nil htold hrest hsteps₁
    exact ⟨events, hs'.between, hsteps'⟩

/-- The steps of the scenes are noted one scene after the other. -/
theorem Between.steps_takeAll_actCues : ∀ {entries : List SceneEntry} {s : Stage}
    {done : List (List (Event Character))}, s.Between v done →
    s.takeAll (v.actCues roster (done.length + 1) entries) = (.ok (), s') →
    Note.steps s.notes = v.trace done →
    ∃ scenes, s'.Between v (done ++ scenes) ∧ Note.steps s'.notes = v.trace (done ++ scenes)
  | [], s, done, h, htakes, hsteps => by
    cases htakes
    exact ⟨[], by rwa [List.append_nil], by rwa [List.append_nil]⟩
  | entry :: rest, s, done, h, htakes, hsteps => by
    unfold Vocabulary.actCues at htakes
    split at htakes
    · refine ⟨[], ?_⟩
      rw [List.append_nil]
      -- the word that ends the act has a warning at most
      split at htakes
      · cases htakes
        exact ⟨h, hsteps⟩
      · cases htakes
        refine ⟨h.tell _, ?_⟩
        show Note.steps (s.notes ++ [.entriesAfterAct rest.length]) = _
        rw [Note.steps_append, hsteps]
        exact List.append_nil _
    · rw [takeAll_append_eq_proceed] at htakes
      obtain ⟨⟨⟩, s₁, hscene, hrest⟩ := proceed_eq_ok htakes
      obtain ⟨events, hs₁, hsteps₁⟩ := h.steps_takeAll_sceneCues hscene hsteps
      have hnext : s₁.takeAll (v.actCues roster ((done ++ [events]).length + 1) rest)
          = (.ok (), s') := by
        rw [List.length_append, List.length_singleton]
        exact hrest
      obtain ⟨scenes, hs', hsteps'⟩ := Between.steps_takeAll_actCues hs₁ hnext hsteps₁
      rw [List.append_assoc] at hs' hsteps'
      exact ⟨events :: scenes, hs', hsteps'⟩

end Stage

namespace Script

variable {v : Vocabulary} {script : Script} {play : Play}

/-- The steps of a performance are those of the events that its graph is the outline of. -/
theorem steps_of_perform (h : (script.perform v).outcome = .ok play) :
    ∃ scenes, play.graph = v.outline scenes ∧
      Note.steps (script.perform v).notes = v.trace scenes := by
  obtain ⟨s, htakes, hgraph, hnotes⟩ := notes_perform h
  rw [hnotes, Note.steps_append, Note.steps_eq_nil fun _ => severity_of_mem_rosterNotes,
    List.nil_append]
  rw [cues, List.cons_append, Stage.takeAll_cons_eq_proceed] at htakes
  obtain ⟨⟨⟩, s₁, hact, hrest⟩ := Stage.proceed_eq_ok htakes
  have hs₁ : s₁.Between v [] ∧ s₁.notes = v.trace [] := by
    cases hact
    exact ⟨⟨rfl, rfl, rfl, rfl⟩, rfl⟩
  rw [Stage.takeAll_tells] at hrest
  -- what there is to tell of the plot is a warning
  have hs₂ := hs₁.1.tell (script.actNotes (v.actLabel 1))
  have hsteps : Note.steps (s₁.tell (script.actNotes (v.actLabel 1))).notes = v.trace [] := by
    show Note.steps (s₁.notes ++ _) = _
    rw [Note.steps_append, Note.steps_eq_nil fun _ => severity_of_mem_actNotes, hs₁.2]
    rfl
  cases ha : script.act (v.actLabel 1) with
  | error fault =>
    rw [ha] at hrest
    cases hrest
  | ok entries =>
    rw [ha] at hrest
    obtain ⟨scenes, hs, hscenes⟩ := hs₂.steps_takeAll_actCues hrest hsteps
    exact ⟨scenes, hgraph.trans hs.graph, hscenes⟩

end Script

end Dramaturgy
