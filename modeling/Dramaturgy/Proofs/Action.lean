import Dramaturgy.Proofs.Graph
import Dramaturgy.Proofs.Stage

/-!
# What counts among the cues

Some cues only take a note. The others are the actions, and what becomes of a script depends on
them alone: `outcome_perform` gives the outcome of a performance in terms of the roster and of the
actions that its cues hold. So two scripts are performed with the same result when their actions are
the same, whatever there is to note about them.

No operation looks at the notes (`Stage.Alike.take`), which is why they can be left out. And no
operation takes anything out of the graph (`Stage.grows_take`), so that the graph of some actions is
the beginning of the graph of more (`grows_of_result_append`), and the first fault is the last word
(`result_append_of_error`).
-/

namespace Dramaturgy

namespace Cue

/-- Whether a cue does more than take a note. -/
def isAction : Cue → Bool
  | .tell _ => false
  | _ => true

/-- The cues that do more than take a note. -/
def actions (cues : List Cue) : List Cue :=
  cues.filter (·.isAction)

@[simp] theorem actions_nil : actions [] = [] := rfl

@[simp] theorem actions_append (first rest : List Cue) :
    actions (first ++ rest) = actions first ++ actions rest :=
  List.filter_append ..

@[simp] theorem actions_cons (cue : Cue) (cues : List Cue) :
    actions (cue :: cues) = if cue.isAction then cue :: actions cues else actions cues :=
  List.filter_cons

@[simp] theorem actions_map_tell (notes : List Note) : actions (notes.map .tell) = [] := by
  simp [actions, isAction]

@[simp] theorem actions_ite_tell (p : Prop) [Decidable p] (note : Note) :
    actions (if p then [] else [.tell note]) = [] := by
  split <;> simp [isAction]

end Cue

/-! ## Graphs that grow -/

/-- A graph goes on where another one ends. -/
structure Graph.Grows (g grown : Graph) : Prop where
  nodes : g.nodes <+: grown.nodes
  edges : g.edges <+: grown.edges

namespace Graph

variable {g g' g'' : Graph}

theorem Grows.refl (g : Graph) : g.Grows g :=
  ⟨List.prefix_rfl, List.prefix_rfl⟩

theorem Grows.trans (h : g.Grows g') (h' : g'.Grows g'') : g.Grows g'' :=
  ⟨h.nodes.trans h'.nodes, h.edges.trans h'.edges⟩

theorem grows_of_addNode {n : Node} {created : Bool} (h : g.addNode n = .ok (created, g')) :
    g.Grows g' := by
  unfold addNode at h
  split at h
  · cases h
    exact ⟨List.prefix_append _ _, List.prefix_rfl⟩
  · split at h
    · cases h
      exact .refl g
    · cases h

theorem grows_of_addEdge {e : Edge} (h : g.addEdge e = .ok g') : g.Grows g' := by
  rcases addEdge_cases g e with ⟨-, -, hadd⟩ | ⟨endpoint, hadd⟩
  · rw [hadd] at h
    cases h
    exact ⟨List.prefix_rfl, List.prefix_append _ _⟩
  · rw [hadd] at h
    cases h

end Graph

namespace Stage

variable {s s' : Stage} {cue : Cue}

/-! ## Notes do not count -/

/-- Two stages are the same but for their notes. -/
structure Alike (s s' : Stage) : Prop where
  vocabulary : s.vocabulary = s'.vocabulary
  position : s.position = s'.position
  graph : s.graph = s'.graph

/-- Two operations have the same result and leave stages that are the same but for their notes. -/
def SameStep {α : Type} (r r' : Except Fault α × Stage) : Prop :=
  r.1 = r'.1 ∧ r.2.Alike r'.2

theorem alike_refl (s : Stage) : s.Alike s := ⟨rfl, rfl, rfl⟩

theorem Alike.symm (h : s.Alike s') : s'.Alike s :=
  ⟨h.vocabulary.symm, h.position.symm, h.graph.symm⟩

theorem Alike.trans {s'' : Stage} (h : s.Alike s') (h' : s'.Alike s'') : s.Alike s'' :=
  ⟨h.vocabulary.trans h'.vocabulary, h.position.trans h'.position, h.graph.trans h'.graph⟩

theorem Alike.sceneId (h : s.Alike s') : s.sceneId = s'.sceneId := by
  rw [sceneId_eq, sceneId_eq, h.vocabulary, h.position]

theorem Alike.nodeId (h : s.Alike s') (name : String) : s.nodeId name = s'.nodeId name := by
  rw [nodeId_eq, nodeId_eq, h.sceneId]

theorem Alike.addNode (h : s.Alike s') (n : Node) : SameStep (s.addNode n) (s'.addNode n) := by
  unfold Stage.addNode
  rw [h.graph]
  cases s'.graph.addNode n with
  | error fault => exact ⟨rfl, h⟩
  | ok added => exact ⟨rfl, h.vocabulary, h.position, rfl⟩

theorem Alike.address (h : s.Alike s') (speaker : String) (target : Target) (text : String)
    (tags : List String) :
    SameStep (s.address speaker target text tags) (s'.address speaker target text tags) := by
  have hedge : s.edgeTo speaker target text tags = s'.edgeTo speaker target text tags := by
    simp only [edgeTo, h.nodeId]
  unfold Stage.address addEdge
  rw [hedge, h.graph]
  cases s'.graph.addEdge (s'.edgeTo speaker target text tags) with
  | error fault => exact ⟨rfl, h⟩
  | ok grown => exact ⟨rfl, h.vocabulary, h.position, rfl⟩

theorem Alike.openAct (h : s.Alike s') : SameStep s.openAct s'.openAct := by
  unfold Stage.openAct
  rw [h.position]
  split
  · exact ⟨rfl, h⟩
  · exact ⟨rfl, h.vocabulary, rfl, h.graph⟩

theorem Alike.nextScene (h : s.Alike s') : s.nextScene.Alike s'.nextScene :=
  ⟨h.vocabulary, by simp only [Stage.nextScene, h.position], h.graph⟩

theorem Alike.nextDirection (h : s.Alike s') : s.nextDirection.Alike s'.nextDirection :=
  ⟨h.vocabulary, by simp only [Stage.nextDirection, h.position], h.graph⟩

theorem Alike.sceneNode (h : s.Alike s') : s.sceneNode = s'.sceneNode := by
  unfold Stage.sceneNode Stage.sceneLabel
  rw [h.sceneId, h.vocabulary, h.position]

/-! ## One operation after another -/

/-- Goes on from an operation, unless that has failed. -/
def proceed {α β : Type} (r : Except Fault α × Stage) (f : α → Stage → Except Fault β × Stage) :
    Except Fault β × Stage :=
  match r with
  | (.error fault, s) => (.error fault, s)
  | (.ok a, s) => f a s

theorem proceed_of_error {α β : Type} {r : Except Fault α × Stage}
    {f : α → Stage → Except Fault β × Stage} {fault : Fault} (h : r.1 = .error fault) :
    (proceed r f).1 = .error fault := by
  obtain ⟨outcome, s⟩ := r
  cases h
  rfl

theorem proceed_of_ok {α β : Type} {r : Except Fault α × Stage}
    {f : α → Stage → Except Fault β × Stage} {a : α} (h : r.1 = .ok a) :
    proceed r f = f a r.2 := by
  obtain ⟨outcome, s⟩ := r
  cases h
  rfl

theorem proceed_eq_ok {α β : Type} {r : Except Fault α × Stage}
    {f : α → Stage → Except Fault β × Stage} {b : β} {s' : Stage} (h : proceed r f = (.ok b, s')) :
    ∃ a s, r = (.ok a, s) ∧ f a s = (.ok b, s') := by
  obtain ⟨outcome, s⟩ := r
  cases outcome with
  | error fault => cases h
  | ok a => exact ⟨a, s, rfl, h⟩

theorem proceed_congr {α β : Type} {r : Except Fault α × Stage}
    {f g : α → Stage → Except Fault β × Stage} (h : ∀ a s, r = (.ok a, s) → f a s = g a s) :
    proceed r f = proceed r g := by
  obtain ⟨outcome, s⟩ := r
  cases outcome with
  | error fault => rfl
  | ok a => exact h a s rfl

/-- What holds of the stage after an operation, and is kept by the next one, holds in the end. -/
theorem proceed_keeps {α β : Type} {P : Stage → Prop} {r : Except Fault α × Stage}
    {f : α → Stage → Except Fault β × Stage} (h : P r.2) (hf : ∀ a s, P s → P (f a s).2) :
    P (proceed r f).2 := by
  obtain ⟨outcome, s⟩ := r
  cases outcome with
  | error fault => exact h
  | ok a => exact hf a s h

theorem openScene_eq_proceed (s : Stage) :
    s.openScene = proceed (s.nextScene.addNode s.nextScene.sceneNode) fun _ s =>
      (.ok s.sceneNode, s) := by
  rw [openScene_eq]
  rcases s.nextScene.addNode s.nextScene.sceneNode with ⟨fault | created, s'⟩ <;> rfl

theorem addDirection_eq_proceed (s : Stage) (text : String) :
    s.addDirection text = proceed (s.nextDirection.addNode (s.nextDirection.directionNode text))
      fun _ s => (.ok s.position.direction, s) := by
  rw [addDirection_eq]
  rcases s.nextDirection.addNode (s.nextDirection.directionNode text) with ⟨fault | created, s'⟩ <;>
    rfl

theorem direct_eq_proceed (s : Stage) (speaker : Option String) (text : String) :
    s.direct speaker text = proceed (s.addDirection text) fun index s =>
      match speaker with
      | none => (.ok (), s)
      | some name => s.address name (.direction index) "" [] := by
  unfold direct
  rcases s.addDirection text with ⟨fault | index, s'⟩
  · rfl
  · cases speaker <;> rfl

theorem giveFloor_eq_proceed (s : Stage) (previous : Option String) (speaker : Character) :
    s.giveFloor previous speaker = proceed (s.enter speaker.name speaker.tags) fun created s =>
      match created, previous with
      | true, some name =>
        if name = speaker.name then (.ok (), s)
        else s.address name (.character speaker.name) "" []
      | _, _ => (.ok (), s) := by
  unfold giveFloor
  rcases s.enter speaker.name speaker.tags with ⟨fault | created, s'⟩
  · rfl
  · cases created <;> cases previous <;> rfl

theorem exchange_eq_proceed (s : Stage) (speaker : String) (listener : Character) (text : String)
    (tags : List String) :
    s.exchange speaker listener text tags = proceed (s.enter listener.name listener.tags) fun _ s =>
      s.address speaker (.character listener.name) text tags := by
  unfold exchange
  rcases s.enter listener.name listener.tags with ⟨fault | created, s'⟩ <;> rfl

theorem take_scene_eq_proceed (s : Stage) :
    s.take .scene = proceed s.openScene fun _ s => (.ok (), s.tell [.scene s.sceneLabel]) := by
  unfold take
  rcases s.openScene with ⟨fault | node, s'⟩ <;> rfl

theorem takeAll_cons_eq_proceed (s : Stage) (cue : Cue) (cues : List Cue) :
    s.takeAll (cue :: cues) = proceed (s.take cue) fun _ s => s.takeAll cues := by
  rw [takeAll]
  rcases s.take cue with ⟨fault | _, s'⟩ <;> rfl

theorem takeAll_append_eq_proceed (s : Stage) (first rest : List Cue) :
    s.takeAll (first ++ rest) = proceed (s.takeAll first) fun _ s => s.takeAll rest := by
  rw [takeAll_append]
  rcases s.takeAll first with ⟨fault | _, s'⟩ <;> rfl

theorem SameStep.proceed {α β : Type} {r r' : Except Fault α × Stage}
    {f f' : α → Stage → Except Fault β × Stage} (h : SameStep r r')
    (hf : ∀ a {s s' : Stage}, s.Alike s' → SameStep (f a s) (f' a s')) :
    SameStep (proceed r f) (proceed r' f') := by
  obtain ⟨outcome, s⟩ := r
  obtain ⟨outcome', s'⟩ := r'
  obtain rfl : outcome = outcome' := h.1
  cases outcome with
  | error fault => exact ⟨rfl, h.2⟩
  | ok a => exact hf a h.2

theorem grows_proceed {α β : Type} {g : Graph} {r : Except Fault α × Stage}
    {f : α → Stage → Except Fault β × Stage} (h : g.Grows r.2.graph)
    (hf : ∀ a (s : Stage), s.graph.Grows (f a s).2.graph) : g.Grows (proceed r f).2.graph :=
  proceed_keeps (P := fun s => g.Grows s.graph) h fun a s hs => hs.trans (hf a s)

/-! ## Each cue, whatever the notes -/

theorem Alike.openScene (h : s.Alike s') : SameStep s.openScene s'.openScene := by
  rw [openScene_eq_proceed, openScene_eq_proceed, h.nextScene.sceneNode]
  exact (h.nextScene.addNode _).proceed fun _ _ _ h => ⟨by rw [h.sceneNode], h⟩

theorem Alike.addDirection (h : s.Alike s') (text : String) :
    SameStep (s.addDirection text) (s'.addDirection text) := by
  have hnode : s.nextDirection.directionNode text = s'.nextDirection.directionNode text := by
    simp only [directionNode, h.nextDirection.nodeId, h.nextDirection.sceneId,
      h.nextDirection.position]
  rw [addDirection_eq_proceed, addDirection_eq_proceed, hnode]
  exact (h.nextDirection.addNode _).proceed fun _ _ _ h => ⟨by rw [h.position], h⟩

theorem Alike.enter (h : s.Alike s') (name : String) (tags : List String) :
    SameStep (s.enter name tags) (s'.enter name tags) := by
  have hnode : s.characterNode name tags = s'.characterNode name tags := by
    simp only [characterNode, h.nodeId, h.sceneId]
  unfold Stage.enter
  rw [hnode]
  exact h.addNode _

theorem Alike.direct (h : s.Alike s') (speaker : Option String) (text : String) :
    SameStep (s.direct speaker text) (s'.direct speaker text) := by
  rw [direct_eq_proceed, direct_eq_proceed]
  refine (h.addDirection text).proceed fun index _ _ h => ?_
  cases speaker with
  | none => exact ⟨rfl, h⟩
  | some name => exact h.address ..

theorem Alike.giveFloor (h : s.Alike s') (previous : Option String) (speaker : Character) :
    SameStep (s.giveFloor previous speaker) (s'.giveFloor previous speaker) := by
  rw [giveFloor_eq_proceed, giveFloor_eq_proceed]
  refine (h.enter _ _).proceed fun created _ _ h => ?_
  split
  · split
    · exact ⟨rfl, h⟩
    · exact h.address ..
  · exact ⟨rfl, h⟩

theorem Alike.exchange (h : s.Alike s') (speaker : String) (listener : Character) (text : String)
    (tags : List String) :
    SameStep (s.exchange speaker listener text tags) (s'.exchange speaker listener text tags) := by
  rw [exchange_eq_proceed, exchange_eq_proceed]
  exact (h.enter _ _).proceed fun _ _ _ h => h.address ..

/-- What a cue does has nothing to do with the notes so far. -/
theorem Alike.take (h : s.Alike s') : ∀ cue : Cue, SameStep (s.take cue) (s'.take cue)
  | .tell note => ⟨rfl, h.vocabulary, h.position, h.graph⟩
  | .act => h.openAct
  | .scene => by
    rw [take_scene_eq_proceed, take_scene_eq_proceed]
    exact h.openScene.proceed fun _ _ _ h => ⟨rfl, h.vocabulary, h.position, h.graph⟩
  | .direction speaker text => h.direct speaker text
  | .floor previous speaker => h.giveFloor previous speaker
  | .address speaker listener text tags => h.exchange speaker listener text tags
  | .fail fault => ⟨rfl, h⟩

/-- Leaving out the cues that only take a note changes nothing but the notes. -/
theorem Alike.takeAll_actions : ∀ (cues : List Cue) {s s' : Stage}, s.Alike s' →
    SameStep (s.takeAll cues) (s'.takeAll (Cue.actions cues))
  | [], _, _, h => ⟨rfl, h⟩
  | cue :: cues, s, s', h => by
    by_cases hcue : cue.isAction = true
    · rw [Cue.actions_cons, if_pos hcue, takeAll_cons_eq_proceed, takeAll_cons_eq_proceed]
      exact (h.take cue).proceed fun _ _ _ h => takeAll_actions cues h
    · cases cue with
      | tell note =>
        rw [Cue.actions_cons, if_neg hcue]
        have htell : (s.tell [note]).Alike s' := ⟨h.vocabulary, h.position, h.graph⟩
        exact takeAll_actions cues htell
      | _ => exact absurd rfl hcue

/-! ## The graph only grows -/

theorem grows_addNode (s : Stage) (n : Node) : s.graph.Grows (s.addNode n).2.graph := by
  unfold addNode
  cases h : s.graph.addNode n with
  | error fault => exact .refl _
  | ok added => exact Graph.grows_of_addNode h

theorem grows_address (s : Stage) (speaker : String) (target : Target) (text : String)
    (tags : List String) : s.graph.Grows (s.address speaker target text tags).2.graph := by
  unfold address addEdge
  cases h : s.graph.addEdge (s.edgeTo speaker target text tags) with
  | error fault => exact .refl _
  | ok grown => exact Graph.grows_of_addEdge h

theorem grows_openScene (s : Stage) : s.graph.Grows s.openScene.2.graph := by
  rw [openScene_eq_proceed]
  exact grows_proceed (grows_addNode s.nextScene _) fun _ _ => .refl _

theorem grows_addDirection (s : Stage) (text : String) :
    s.graph.Grows (s.addDirection text).2.graph := by
  rw [addDirection_eq_proceed]
  exact grows_proceed (grows_addNode s.nextDirection _) fun _ _ => .refl _

/-- A cue takes nothing out of the graph, and it changes nothing there, also if it fails. -/
theorem grows_take (s : Stage) : ∀ cue : Cue, s.graph.Grows (s.take cue).2.graph
  | .tell note => .refl _
  | .act => by
    show s.graph.Grows s.openAct.2.graph
    unfold openAct
    split <;> exact .refl _
  | .scene => by
    rw [take_scene_eq_proceed]
    exact grows_proceed (grows_openScene s) fun _ _ => .refl _
  | .direction speaker text => by
    show s.graph.Grows (s.direct speaker text).2.graph
    rw [direct_eq_proceed]
    refine grows_proceed (grows_addDirection s text) fun index s => ?_
    cases speaker with
    | none => exact .refl _
    | some name => exact grows_address ..
  | .floor previous speaker => by
    show s.graph.Grows (s.giveFloor previous speaker).2.graph
    rw [giveFloor_eq_proceed]
    refine grows_proceed (grows_addNode s _) fun created s => ?_
    split
    · split
      · exact .refl _
      · exact grows_address ..
    · exact .refl _
  | .address speaker listener text tags => by
    show s.graph.Grows (s.exchange speaker listener text tags).2.graph
    rw [exchange_eq_proceed]
    exact grows_proceed (grows_addNode s _) fun _ s => grows_address ..
  | .fail fault => .refl _

theorem grows_takeAll : ∀ (cues : List Cue) (s : Stage), s.graph.Grows (s.takeAll cues).2.graph
  | [], s => .refl _
  | cue :: cues, s => by
    rw [takeAll_cons_eq_proceed]
    exact grows_proceed (grows_take s cue) fun _ s => grows_takeAll cues s

/-! ## The result of some cues -/

/-- The graph that some cues make, or the fault at which they end. -/
def result (s : Stage) (cues : List Cue) : Except Fault Graph :=
  (s.takeAll cues).1.map fun _ => (s.takeAll cues).2.graph

variable {first rest cues : List Cue} {fault : Fault} {g g' : Graph}

theorem result_eq_error_iff : s.result cues = .error fault ↔ (s.takeAll cues).1 = .error fault := by
  unfold result
  cases (s.takeAll cues).1 <;> simp [Except.map]

theorem result_eq_ok_iff :
    s.result cues = .ok g ↔ (s.takeAll cues).1 = .ok () ∧ (s.takeAll cues).2.graph = g := by
  unfold result
  cases (s.takeAll cues).1 <;> simp [Except.map]

theorem result_actions (s : Stage) (cues : List Cue) :
    s.result (Cue.actions cues) = s.result cues := by
  obtain ⟨hsame, halike⟩ := Alike.takeAll_actions cues (alike_refl s)
  rw [result, result, ← hsame, ← halike.graph]

/-- Nothing comes after a fault. -/
theorem result_append_of_error (h : s.result first = .error fault) :
    s.result (first ++ rest) = .error fault := by
  rw [result_eq_error_iff] at h ⊢
  rw [takeAll_append_eq_proceed, proceed_of_error h]

/-- Further cues go on where the graph ends. -/
theorem grows_of_result_append (h : s.result first = .ok g)
    (h' : s.result (first ++ rest) = .ok g') : g.Grows g' := by
  obtain ⟨hfirst, rfl⟩ := result_eq_ok_iff.mp h
  obtain ⟨-, rfl⟩ := result_eq_ok_iff.mp h'
  rw [takeAll_append_eq_proceed, proceed_of_ok hfirst]
  exact grows_takeAll rest _

end Stage

/-! ## Scripts -/

theorem Report.outcome_andThen {α β : Type} (r : Report α) (f : α → Report β) :
    (r.andThen f).outcome = r.outcome.bind fun a => (f a).outcome := by
  unfold andThen
  cases r.outcome <;> rfl

namespace Script

theorem roster_congr {v : Vocabulary} {script other : Script}
    (h : script.characters = other.characters) : script.roster v = other.roster v := by
  simp only [Script.roster, rosterEntries, h]

/-- The outcome of a performance, by the roster and the actions of a script. -/
theorem outcome_perform (v : Vocabulary) (script : Script) :
    (script.perform v).outcome = (script.roster v).outcome.bind fun roster =>
      (({ vocabulary := v } : Stage).result (Cue.actions (script.cues v roster))).map
        (script.toPlay roster) := by
  rw [perform, Report.outcome_andThen]
  congr 1
  funext roster
  have hgraph : (script.graph v roster).outcome
      = ({ vocabulary := v } : Stage).result (script.cues v roster) := rfl
  rw [Report.outcome_andThen, Stage.result_actions, ← hgraph]
  cases (script.graph v roster).outcome <;> rfl

variable {v : Vocabulary} {script : Script} {roster : Roster}

theorem actions_cues {entries : List SceneEntry} (h : script.act (v.actLabel 1) = .ok entries) :
    Cue.actions (script.cues v roster) = .act :: Cue.actions (v.actCues roster 1 entries) := by
  rw [cues, h]
  simp [Cue.isAction]

theorem actions_cues_of_error {fault : Fault} (h : script.act (v.actLabel 1) = .error fault) :
    Cue.actions (script.cues v roster) = [.act, .fail fault] := by
  rw [cues, h]
  simp [Cue.isAction]

theorem perform_eq_error_iff_result {fault : Fault} :
    (script.perform v).outcome = .error fault ↔ (script.roster v).outcome = .error fault ∨
      ∃ roster, (script.roster v).outcome = .ok roster ∧
        ({ vocabulary := v } : Stage).result (Cue.actions (script.cues v roster))
          = .error fault := by
  rw [outcome_perform]
  cases (script.roster v).outcome with
  | error other => simp [Except.bind]
  | ok roster =>
    simp only [Except.bind, Except.ok.injEq, reduceCtorEq, false_or, exists_eq_left']
    cases ({ vocabulary := v } : Stage).result (Cue.actions (script.cues v roster)) <;>
      simp [Except.map]

theorem perform_eq_ok_iff_result {play : Play} :
    (script.perform v).outcome = .ok play ↔ ∃ roster g, (script.roster v).outcome = .ok roster ∧
      ({ vocabulary := v } : Stage).result (Cue.actions (script.cues v roster)) = .ok g ∧
      script.toPlay roster g = play := by
  rw [outcome_perform]
  cases (script.roster v).outcome with
  | error other => simp [Except.bind]
  | ok roster =>
    simp only [Except.bind, Except.ok.injEq, exists_and_left, exists_eq_left']
    cases ({ vocabulary := v } : Stage).result (Cue.actions (script.cues v roster)) <;>
      simp [Except.map]

end Script

end Dramaturgy
