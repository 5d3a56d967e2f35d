import Dramaturgy.Proofs.Outline

/-!
# What the stage holds in a scene

While a scene is performed, the stage holds the graph of the scenes before it and of the events of
the scene so far, and its counters say where in the scene it is (`Stage.Within`). A cue that
performs an event takes it there with one event more, unless that makes a name clash with the number
of a direction; then the cue fails, and an id has collided. It cannot fail in another way:

* `take_of_unclashed`: without a clash the event is performed;
* `take_of_clash`: with a clash an id collides.

An event adds its nodes first and its edges afterwards. `Stage.Midway` is what holds in between.
-/

namespace Dramaturgy

open Event

/-- A cue that performs an event after some others: it names whoever has the floor then. -/
inductive Cue.Performs (past : List (Event Character)) : Cue → Event Character → Prop where
  | direction (text : String) :
    Performs past (.direction ((floor? past).map (·.name)) text) (.direction text)
  | speech (c : Character) : Performs past (.floor ((floor? past).map (·.name)) c) (.speech c)
  | address {speaker : Character} (c : Character) (text : String) (tags : List String) :
    floor? past = some speaker →
      Performs past (.address speaker.name c text tags) (.address c text tags)

namespace Stage

variable {s : Stage} {n m : Node}

/-! ## Adding to the graph -/

theorem addNode_of_none (h : s.graph.node? n.id = none) :
    s.addNode n = (.ok true, { s with
      graph := { s.graph with nodes := s.graph.nodes ++ [n] }
      notes := s.notes ++ [.node n.id n.kind] }) := by
  have hn : s.graph.nodeNotes n = [.node n.id n.kind] := by
    simp [Graph.nodeNotes, Graph.contains, h]
  rw [addNode, Graph.addNode_of_none h]
  simp only [hn]

theorem addNode_of_same_kind (h : s.graph.node? n.id = some m) (hk : m.kind = n.kind) :
    s.addNode n = (.ok false, s) := by
  have hn : s.graph.nodeNotes n = [] := by
    simp [Graph.nodeNotes, Graph.contains, h]
  rw [addNode, Graph.addNode_of_same_kind h hk]
  simp only [hn, List.append_nil]

theorem addNode_of_other_kind (h : s.graph.node? n.id = some m) (hk : m.kind ≠ n.kind) :
    s.addNode n = (.error (.identifierCollision n.id), s) := by
  rw [addNode, Graph.addNode_of_other_kind h hk]

theorem address_of_contains {speaker text : String} {target : Target} {tags : List String}
    (hs : s.graph.contains (s.nodeId speaker) = true)
    (ht : s.graph.contains (s.nodeId target.localName) = true) :
    s.address speaker target text tags = (.ok (), { s with
      graph := { s.graph with edges := s.graph.edges ++ [s.edgeTo speaker target text tags] }
      notes := s.notes ++ s.graph.edgeNotes (s.edgeTo speaker target text tags) }) := by
  rw [address, addEdge, Graph.addEdge_of_contains hs ht]

/-! ## Between scenes and within one -/

/-- The stage between scenes: those in `done` have been performed. -/
structure Between (s : Stage) (v : Vocabulary) (done : List (List (Event Character))) : Prop where
  vocabulary : s.vocabulary = v
  act : s.position.act = 1
  scene : s.position.scene = done.length
  graph : s.graph = v.outline done

/-- The stage within a scene: those in `done` have been performed, and of this one the events in
`current`. -/
structure Within (s : Stage) (v : Vocabulary) (done : List (List (Event Character)))
    (current : List (Event Character)) : Prop where
  vocabulary : s.vocabulary = v
  act : s.position.act = 1
  scene : s.position.scene = done.length + 1
  direction : s.position.direction = directionCount current
  graph : s.graph = v.outline (done ++ [current])

/-- The stage amid an event: its nodes have been added, its edges have not. -/
structure Midway (s : Stage) (v : Vocabulary) (done : List (List (Event Character)))
    (current : List (Event Character)) (e : Event Character) : Prop where
  vocabulary : s.vocabulary = v
  act : s.position.act = 1
  scene : s.position.scene = done.length + 1
  direction : s.position.direction = directionCount (current ++ [e])
  graph : s.graph =
    { nodes := (v.outline (done ++ [current ++ [e]])).nodes
      edges := (v.outline (done ++ [current])).edges }

variable {v : Vocabulary} {done : List (List (Event Character))}
  {current : List (Event Character)} {e : Event Character} {c speaker : Character}

theorem Within.sceneId (h : s.Within v done current) :
    s.sceneId = v.sceneId 1 (done.length + 1) := by
  rw [Stage.sceneId_eq, h.vocabulary, h.act, h.scene]

theorem Midway.sceneId (h : s.Midway v done current e) :
    s.sceneId = v.sceneId 1 (done.length + 1) := by
  rw [Stage.sceneId_eq, h.vocabulary, h.act, h.scene]

/-- When a scene is over, the stage is between scenes. -/
theorem Within.between (h : s.Within v done current) : s.Between v (done ++ [current]) where
  vocabulary := h.vocabulary
  act := h.act
  scene := by rw [h.scene, List.length_append, List.length_singleton]
  graph := h.graph

/-- An event without edges is over when its nodes have been added. -/
theorem Midway.within (h : s.Midway v done current e)
    (he : e.edges (v.sceneId 1 (done.length + 1)) current = []) :
    s.Within v done (current ++ [e]) where
  vocabulary := h.vocabulary
  act := h.act
  scene := h.scene
  direction := h.direction
  graph := by
    rw [h.graph, Graph.mk.injEq]
    exact ⟨rfl, by rw [Vocabulary.outline_event, he, List.append_nil]⟩

/-- Whoever is on stage has a node, and so has whoever the event brings there. -/
theorem Midway.contains_name (h : s.Midway v done current e) {name : String}
    (hn : name ∈ names (current ++ [e])) : s.graph.contains (s.nodeId name) = true := by
  obtain ⟨c, -, rfl, hmem⟩ := exists_ofCharacter (v.sceneId 1 (done.length + 1)) hn
  rw [Stage.nodeId_eq, h.sceneId]
  refine Graph.contains_of_mem (n := Node.ofCharacter (v.sceneId 1 (done.length + 1)) c) ?_
  rw [h.graph, Vocabulary.nodes_outline_append_singleton]
  exact List.mem_append_right _ (List.mem_cons_of_mem _ hmem)

/-- An event with one edge is over when that has been added. -/
theorem Midway.address (h : s.Midway v done current e) {target : Target} {text : String}
    {tags : List String} (hf : floor? current = some speaker)
    (ht : s.graph.contains (s.nodeId target.localName) = true)
    (he : e.edges (v.sceneId 1 (done.length + 1)) current
      = [s.edgeTo speaker.name target text tags]) :
    ∃ s', s.address speaker.name target text tags = (.ok (), s') ∧
      s'.Within v done (current ++ [e]) := by
  have hs : s.graph.contains (s.nodeId speaker.name) = true :=
    h.contains_name (by rw [names_append]; exact List.mem_append_left _ (mem_names_of_floor? hf))
  refine ⟨_, address_of_contains hs ht, h.vocabulary, h.act, h.scene, h.direction, ?_⟩
  rw [h.graph, Graph.mk.injEq]
  exact ⟨rfl, by rw [Vocabulary.outline_event, he]⟩

/-! ## Performing an event -/

/-- The stage when its counter of directions has moved on. -/
def nextDirection (s : Stage) : Stage :=
  { s with position := { s.position with direction := s.position.direction + 1 } }

theorem addDirection_eq (s : Stage) (text : String) :
    s.addDirection text =
      match s.nextDirection.addNode (s.nextDirection.directionNode text) with
      | (.error fault, s) => (.error fault, s)
      | (.ok _, s) => (.ok s.position.direction, s) := rfl

theorem Within.directionNode_eq (h : s.Within v done current) (text : String) :
    s.nextDirection.directionNode text
      = .ofDirection (v.sceneId 1 (done.length + 1)) (directionCount current + 1) text := by
  rw [← h.sceneId, ← h.direction]
  rfl

/-- A direction takes the next number, if nobody has that for a name. -/
theorem Within.addDirection (h : s.Within v done current) {text : String}
    (hu : Unclashed (current ++ [.direction text])) :
    ∃ s', s.addDirection text = (.ok (directionCount current + 1), s') ∧
      s'.Midway v done current (.direction text) := by
  have hnone := Vocabulary.node?_eq_none_of_new v done
    (unclashed_direction.mp hu).2 fun k _ hk he => by
      have := toString_inj.mp he
      omega
  have hgraph : s.nextDirection.graph = v.outline (done ++ [current]) := h.graph
  rw [addDirection_eq, h.directionNode_eq, addNode_of_none (by rw [hgraph]; exact hnone),
    ← h.direction]
  refine ⟨_, rfl, h.vocabulary, h.act, h.scene, ?_, ?_⟩
  · rw [directionCount_append, ← h.direction]
    rfl
  · show ({ s.graph with nodes := s.graph.nodes ++ [_] } : Graph) = _
    rw [h.graph, Vocabulary.outline_event, h.direction]
    rfl

/-- A direction whose number is somebody's name collides. -/
theorem Within.addDirection_clash (h : s.Within v done current) {text : String}
    (hu : Unclashed current) (hc : ¬Unclashed (current ++ [.direction text])) :
    ∃ id s', s.addDirection text = (.error (.identifierCollision id), s') := by
  have hname : toString (directionCount current + 1) ∈ names current := by
    by_contra hfree
    exact hc (unclashed_direction.mpr ⟨hu, hfree⟩)
  -- the id of the direction is found, and it is a character's
  obtain ⟨m, hm, hk⟩ := Vocabulary.kind_of_mem_names v done hu hname
  have hgraph : s.nextDirection.graph = v.outline (done ++ [current]) := h.graph
  have hother : m.kind ≠ .direction := by rw [hk]; decide
  rw [addDirection_eq, h.directionNode_eq,
    addNode_of_other_kind (by rw [hgraph]; exact hm) hother]
  exact ⟨_, _, rfl⟩

/-- The node of someone who is mentioned. -/
theorem nodes_of_who? {scene : String} (he : e.who? = some c) :
    e.nodes scene current = entrance scene current c := by
  cases e with
  | direction text => cases he
  | speech d => cases he; rfl
  | address d text tags => cases he; rfl

theorem Within.characterNode_eq (h : s.Within v done current) :
    s.characterNode c.name c.tags = .ofCharacter (v.sceneId 1 (done.length + 1)) c := by
  rw [← h.sceneId]
  rfl

/-- Whoever is mentioned for the first time comes on stage, if the name is not the number of a
direction. -/
theorem Within.enter (h : s.Within v done current) (he : e.who? = some c)
    (hu : Unclashed (current ++ [e])) :
    ∃ s', s.enter c.name c.tags = (.ok (decide (c.name ∉ names current)), s') ∧
      s'.Midway v done current e := by
  obtain ⟨hcur, hfree⟩ := (unclashed_mention he).mp hu
  have hdir : directionCount (current ++ [e]) = directionCount current := by
    cases e <;> simp [who?, isDirection] at he ⊢
  unfold Stage.enter
  rw [h.characterNode_eq]
  by_cases hold : c.name ∈ names current
  · obtain ⟨m, hm, hk⟩ := Vocabulary.kind_of_mem_names v done hcur hold
    -- on stage already: the graph stays as it is
    rw [addNode_of_same_kind (m := m) (by rw [h.graph]; exact hm) hk]
    rw [decide_eq_false (not_not_intro hold)]
    refine ⟨s, rfl, h.vocabulary, h.act, h.scene, h.direction.trans hdir.symm, ?_⟩
    rw [h.graph, Vocabulary.outline_event, nodes_of_who? he, entrance, if_pos hold,
      List.append_nil]
  · have hnone := Vocabulary.node?_eq_none_of_new v done hold hfree
    rw [addNode_of_none (by rw [h.graph]; exact hnone)]
    rw [decide_eq_true hold]
    refine ⟨_, rfl, h.vocabulary, h.act, h.scene, h.direction.trans hdir.symm, ?_⟩
    rw [h.graph, Vocabulary.outline_event, nodes_of_who? he, entrance, if_neg hold]

/-- Whoever has the number of a direction for a name cannot come on stage. -/
theorem Within.enter_clash (h : s.Within v done current) (he : e.who? = some c)
    (hu : Unclashed current) (hc : ¬Unclashed (current ++ [e])) :
    ∃ id, s.enter c.name c.tags = (.error (.identifierCollision id), s) := by
  obtain ⟨k, h1, hk, hname⟩ : ∃ k, 1 ≤ k ∧ k ≤ directionCount current ∧ c.name = toString k := by
    by_contra hfree
    exact hc ((unclashed_mention he).mpr ⟨hu, fun k h1 hk hname => hfree ⟨k, h1, hk, hname⟩⟩)
  -- the id of the character is found, and it is a direction's
  obtain ⟨m, hm, hkind⟩ := Vocabulary.kind_of_le_directionCount v done hu h1 hk
  have hother : m.kind ≠ .character := by rw [hkind]; decide
  unfold Stage.enter
  rw [h.characterNode_eq,
    addNode_of_other_kind (by rw [h.graph, ← hm, ← hname]; rfl) hother]
  exact ⟨_, rfl⟩

/-- Performing a direction: whoever has the floor points at it. -/
theorem Within.direct (h : s.Within v done current) {text : String}
    (hu : Unclashed (current ++ [.direction text])) :
    ∃ s', s.direct ((floor? current).map (·.name)) text = (.ok (), s') ∧
      s'.Within v done (current ++ [.direction text]) := by
  obtain ⟨s₁, hadd, hmid⟩ := h.addDirection hu
  unfold Stage.direct
  rw [hadd]
  cases hf : floor? current with
  | none => exact ⟨s₁, rfl, hmid.within (by rw [Event.edges, hf])⟩
  | some speaker =>
    refine hmid.address hf ?_ ?_
    · -- the node that the direction has just added
      have hmem := ofDirection_mem (v.sceneId 1 (done.length + 1))
        (rfl : current ++ [Event.direction text] = _)
      show s₁.graph.contains (s₁.nodeId (toString (directionCount current + 1))) = true
      rw [Stage.nodeId_eq, hmid.sceneId]
      refine Graph.contains_of_mem (n := .ofDirection _ (directionCount current + 1) text) ?_
      rw [hmid.graph, Vocabulary.nodes_outline_append_singleton]
      exact List.mem_append_right _ (List.mem_cons_of_mem _ hmem)
    · rw [Event.edges, hf, Stage.edgeTo, Stage.nodeId_eq, Stage.nodeId_eq, hmid.sceneId]
      rfl

/-- Handing over the floor: whoever had it points at someone who comes on stage by that. -/
theorem Within.giveFloor (h : s.Within v done current) (hu : Unclashed (current ++ [.speech c])) :
    ∃ s', s.giveFloor ((floor? current).map (·.name)) c = (.ok (), s') ∧
      s'.Within v done (current ++ [.speech c]) := by
  obtain ⟨s₁, henter, hmid⟩ := h.enter (e := .speech c) rfl hu
  unfold Stage.giveFloor
  rw [henter]
  cases hf : floor? current with
  | none => exact ⟨s₁, by by_cases hold : c.name ∈ names current <;> simp [hold],
      hmid.within (by rw [Event.edges, hf])⟩
  | some speaker =>
    by_cases hold : c.name ∈ names current
    · refine ⟨s₁, by simp [hold], hmid.within ?_⟩
      rw [Event.edges, hf]
      exact if_pos hold
    · -- a character never hands the floor to itself
      have hne : speaker.name ≠ c.name := fun he => hold (he ▸ mem_names_of_floor? hf)
      simp only [hold, not_false_eq_true, decide_true, Option.map_some, if_neg hne]
      refine hmid.address hf (hmid.contains_name (by simp [who?, Target.localName])) ?_
      rw [Event.edges, hf, Stage.edgeTo, Stage.nodeId_eq, Stage.nodeId_eq, hmid.sceneId]
      exact if_neg hold

/-- Addressing someone, who comes on stage by that if need be. -/
theorem Within.exchange (h : s.Within v done current) {text : String} {tags : List String}
    (hf : floor? current = some speaker) (hu : Unclashed (current ++ [.address c text tags])) :
    ∃ s', s.exchange speaker.name c text tags = (.ok (), s') ∧
      s'.Within v done (current ++ [.address c text tags]) := by
  obtain ⟨s₁, henter, hmid⟩ := h.enter (e := .address c text tags) rfl hu
  unfold Stage.exchange
  rw [henter]
  refine hmid.address hf (hmid.contains_name (by simp [who?, Target.localName])) ?_
  rw [Event.edges, hf, Stage.edgeTo, Stage.nodeId_eq, Stage.nodeId_eq, hmid.sceneId]
  rfl

/-! ## Taking a cue -/

theorem Within.take_of_unclashed (h : s.Within v done current) {cue : Cue}
    (hp : cue.Performs current e) (hu : Unclashed (current ++ [e])) :
    ∃ s', s.take cue = (.ok (), s') ∧ s'.Within v done (current ++ [e]) := by
  cases hp with
  | direction text => exact h.direct hu
  | speech c => exact h.giveFloor hu
  | address c text tags hf => exact h.exchange hf hu

theorem Within.take_of_clash (h : s.Within v done current) {cue : Cue}
    (hp : cue.Performs current e) (hu : Unclashed current) (hc : ¬Unclashed (current ++ [e])) :
    ∃ id s', s.take cue = (.error (.identifierCollision id), s') := by
  cases hp with
  | direction text =>
    obtain ⟨id, s', hadd⟩ := h.addDirection_clash hu hc
    exact ⟨id, s', by unfold Stage.take Stage.direct; simp only [hadd]⟩
  | speech c =>
    obtain ⟨id, henter⟩ := h.enter_clash (e := .speech c) rfl hu hc
    exact ⟨id, s, by unfold Stage.take Stage.giveFloor; simp only [henter]⟩
  | address c text tags hf =>
    obtain ⟨id, henter⟩ := h.enter_clash (e := .address c text tags) rfl hu hc
    exact ⟨id, s, by unfold Stage.take Stage.exchange; simp only [henter]⟩

/-- The act opens on an empty stage. -/
theorem take_act (v : Vocabulary) :
    ∃ s', ({ vocabulary := v } : Stage).take .act = (.ok (), s') ∧ s'.Between v [] :=
  ⟨_, rfl, rfl, rfl, rfl, rfl⟩

/-- The stage when its counter of scenes has moved on. -/
def nextScene (s : Stage) : Stage :=
  { s with position := { s.position with scene := s.position.scene + 1, direction := 0 } }

theorem openScene_eq (s : Stage) :
    s.openScene =
      match s.nextScene.addNode s.nextScene.sceneNode with
      | (.error fault, s) => (.error fault, s)
      | (.ok _, s) => (.ok s.sceneNode, s) := rfl

theorem Between.sceneNode_eq (h : s.Between v done) :
    s.nextScene.sceneNode = v.sceneNode (done.length + 1) := by
  show ({ id := s.vocabulary.sceneId s.position.act (s.position.scene + 1), kind := .scene
          label := s.vocabulary.sceneLabel (s.position.scene + 1) } : Node) = _
  rw [h.vocabulary, h.act, h.scene]
  rfl

/-- The next scene opens, and nothing has happened in it. -/
theorem Between.take_scene (h : s.Between v done) :
    ∃ s', s.take .scene = (.ok (), s') ∧ s'.Within v done [] := by
  have hgraph : s.nextScene.graph = v.outline done := h.graph
  unfold Stage.take
  simp only []
  rw [openScene_eq, h.sceneNode_eq,
    addNode_of_none (by rw [hgraph]; exact Vocabulary.node?_next_scene)]
  refine ⟨_, rfl, h.vocabulary, h.act, ?_, rfl, ?_⟩
  · show s.position.scene + 1 = done.length + 1
    rw [h.scene]
  · show ({ s.graph with nodes := s.graph.nodes ++ [_] } : Graph) = _
    rw [h.graph, Vocabulary.outline_open]

end Stage

end Dramaturgy
