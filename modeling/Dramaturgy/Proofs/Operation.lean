import Dramaturgy.Proofs.Stage

/-!
# Operations in any order

A performance asks the stage for one thing after another in an order of its own. The stage does not
rely on that order: directions may come before any scene, the act after scenes, and operations that
fail at any time. `Stage.after` is the stage after some operations, and `reliable_after` says what
can be relied on then.

The invariant is `Stage.Accounted`. Each node is placed in a scene that has been reached, and the
directions of the current scene are numbered no higher than the counter; so the next scene and the
next direction are new. From the invariant follows what each operation does (`openScene_eq_ok`,
`addDirection_cases`, `enter_cases`, `address_cases`) and what all of them have in common
(`exists_effect`), and from that what a run has put into the graph (`holds_after`): a character is
there if somebody has entered (`entered_iff`), and a direction if there has been one of its number
(`directed_iff`).
-/

namespace Dramaturgy

open Event

/-! ## Runs -/

/-- Something that a stage is asked to do. -/
inductive Operation where
  | openAct
  | openScene
  | addDirection (text : String)
  | enter (name : String) (tags : List String)
  | address (speaker : String) (target : Target) (text : String) (tags : List String)
deriving DecidableEq, Repr

namespace Stage

/-- Does what is asked, and says whether that was possible. -/
def operate (s : Stage) : Operation → Except Fault Unit × Stage
  | .openAct => s.openAct
  | .openScene => (s.openScene.1.map fun _ => (), s.openScene.2)
  | .addDirection text => ((s.addDirection text).1.map fun _ => (), (s.addDirection text).2)
  | .enter name tags => ((s.enter name tags).1.map fun _ => (), (s.enter name tags).2)
  | .address speaker target text tags => s.address speaker target text tags

/-- An empty stage after some operations. -/
def after (v : Vocabulary) (ops : List Operation) : Stage :=
  ops.foldl (fun s op => (s.operate op).2) { vocabulary := v }

theorem after_append_singleton (v : Vocabulary) (ops : List Operation) (op : Operation) :
    after v (ops ++ [op]) = ((after v ops).operate op).2 := by
  simp [after]

/-- Somebody of the given name has come on stage in a scene. -/
def Entered (v : Vocabulary) (ops : List Operation) (act scene : Nat) (name : String) : Prop :=
  Sometime (fun before op => ∃ tags created s', op = .enter name tags ∧
    (after v before).enter name tags = (.ok created, s') ∧
    (after v before).position.act = act ∧ (after v before).position.scene = scene) ops

/-- There has been a direction with the given number in a scene. -/
def Directed (v : Vocabulary) (ops : List Operation) (act scene number : Nat) : Prop :=
  Sometime (fun before op => ∃ text s', op = .addDirection text ∧
    (after v before).addDirection text = (.ok number, s') ∧
    (after v before).position.act = act ∧ (after v before).position.scene = scene) ops

end Stage

/-! ## What a stage holds -/

namespace Position

/-- A scene has been reached when the counters stand as they do. -/
def Reached (p : Position) (act scene : Nat) : Prop :=
  act < p.act ∨ act = p.act ∧ scene ≤ p.scene

/-- The counters have moved on to a later scene, or within the scene. -/
def Upto (p q : Position) : Prop :=
  (p.act < q.act ∨ p.act = q.act ∧ p.scene < q.scene) ∨
    p.act = q.act ∧ p.scene = q.scene ∧ p.direction ≤ q.direction

end Position

/-- A node that a stage may hold when its counters stand at `p`. -/
inductive Node.Placed (v : Vocabulary) (p : Position) : Node → Prop where
  | scene {act scene : Nat} : p.Reached act scene →
    Placed v p { id := v.sceneId act scene, kind := .scene, label := v.sceneLabel scene }
  | direction {act scene number : Nat} (text : String) : p.Reached act scene →
    (act = p.act → scene = p.scene → number ≤ p.direction) →
    Placed v p (.ofDirection (v.sceneId act scene) number text)
  | character {act scene : Nat} (c : Character) : p.Reached act scene →
    Placed v p (.ofCharacter (v.sceneId act scene) c)

namespace Node.Placed

variable {v : Vocabulary} {p q : Position} {n : Node} {name : String}

theorem mono (h : n.Placed v p) (hpq : p.Upto q) : n.Placed v q := by
  unfold Position.Upto at hpq
  cases h with
  | scene hr => exact .scene (by unfold Position.Reached at *; omega)
  | direction text hr hk =>
    exact .direction text (by unfold Position.Reached at *; omega) (by
      unfold Position.Reached at hr
      omega)
  | character c hr => exact .character c (by unfold Position.Reached at *; omega)

/-- An id in the current scene belongs to a character, or to a direction up to the latest. -/
theorem of_id (h : n.Placed v p) (hid : n.id = localId (v.sceneId p.act p.scene) name) :
    n.parent = some (v.sceneId p.act p.scene) ∧
      (n.kind = .character ∨ n.kind = .direction ∧ ∃ k ≤ p.direction, name = toString k) := by
  cases h with
  | scene hr => exact absurd hid.symm Vocabulary.localId_ne_sceneId
  | direction text hr hk =>
    obtain ⟨⟨rfl, rfl⟩, rfl⟩ := Vocabulary.localId_inj.mp hid
    exact ⟨rfl, Or.inr ⟨rfl, _, hk rfl rfl, rfl⟩⟩
  | character c hr =>
    obtain ⟨⟨rfl, rfl⟩, rfl⟩ := Vocabulary.localId_inj.mp hid
    exact ⟨rfl, Or.inl rfl⟩

end Node.Placed

namespace Stage

/-- Every node of a stage is accounted for by where its counters stand. -/
structure Accounted (s : Stage) (v : Vocabulary) : Prop where
  vocabulary : s.vocabulary = v
  nodes : ∀ n ∈ s.graph.nodes, n.Placed v s.position

variable {v : Vocabulary} {s : Stage} {n m : Node} {name : String}

namespace Accounted

theorem sceneId (h : s.Accounted v) :
    s.sceneId = v.sceneId s.position.act s.position.scene := by
  rw [Stage.sceneId_eq, h.vocabulary]

/-- What is found under an id in the current scene. -/
theorem of_node? (h : s.Accounted v) (hm : s.graph.node? (s.nodeId name) = some m) :
    m.parent = some s.sceneId ∧ (m.kind = .character ∨
      m.kind = .direction ∧ ∃ k ≤ s.position.direction, name = toString k) := by
  obtain ⟨hmem, hid⟩ := Graph.mem_of_node? hm
  rw [h.sceneId]
  rw [Stage.nodeId_eq, h.sceneId] at hid
  exact (h.nodes m hmem).of_id hid

theorem within_of_contains (h : s.Accounted v) (hc : s.graph.contains (s.nodeId name) = true) :
    s.graph.Within (s.nodeId name) s.sceneId := by
  obtain ⟨m, hm⟩ := Option.isSome_iff_exists.mp hc
  exact ⟨m, hm, (h.of_node? hm).1⟩

/-- The next scene is new. -/
theorem node?_nextScene (h : s.Accounted v) : s.graph.node? s.nextScene.sceneId = none := by
  have hid : s.nextScene.sceneId = v.sceneId s.position.act (s.position.scene + 1) := by
    rw [Stage.sceneId_eq, ← h.vocabulary]
    rfl
  rw [hid, Graph.node?_eq_none_iff]
  intro n hn
  cases h.nodes n hn with
  | scene hr =>
    intro he
    obtain ⟨rfl, rfl⟩ := Vocabulary.sceneId_inj.mp he
    unfold Position.Reached at hr
    omega
  | direction text hr hk => exact Vocabulary.localId_ne_sceneId
  | character c hr => exact Vocabulary.localId_ne_sceneId

end Accounted

/-! ## What an operation does -/

/-- The stage when its counter of acts has moved on. -/
def nextAct (s : Stage) : Stage :=
  { s with position := { s.position with act := s.position.act + 1, scene := 0 } }

theorem openAct_cases (s : Stage) : s.openAct = (.error .secondAct, s) ∨
    ∃ notes, s.openAct = (.ok (), { s.nextAct with notes := notes }) := by
  unfold openAct
  split
  · exact Or.inl rfl
  · exact Or.inr ⟨_, rfl⟩

/-- The next scene opens, whatever has come before. -/
theorem Accounted.openScene_eq_ok (h : s.Accounted v) : ∃ notes, s.openScene
    = (.ok s.nextScene.sceneNode, { s.nextScene with
        graph := { s.graph with nodes := s.graph.nodes ++ [s.nextScene.sceneNode] }
        notes := notes }) := by
  have hnone : s.nextScene.graph.node? s.nextScene.sceneNode.id = none := h.node?_nextScene
  rw [openScene_eq, addNode_of_none hnone]
  exact ⟨_, rfl⟩

/-- A direction takes the next number, unless that is the name of someone in the scene. -/
theorem Accounted.addDirection_cases (h : s.Accounted v) (text : String) :
    (s.graph.Holds .character (s.nodeId (toString (s.position.direction + 1))) ∧
      s.addDirection text = (.error (.identifierCollision
        (s.nodeId (toString (s.position.direction + 1)))), s.nextDirection)) ∨
    s.graph.node? (s.nodeId (toString (s.position.direction + 1))) = none ∧
      ∃ notes, s.addDirection text = (.ok (s.position.direction + 1), { s.nextDirection with
        graph := { s.graph with nodes := s.graph.nodes ++
          [.ofDirection s.sceneId (s.position.direction + 1) text] }
        notes := notes }) := by
  rw [addDirection_eq]
  have hnode : s.nextDirection.directionNode text
      = .ofDirection s.sceneId (s.position.direction + 1) text := rfl
  rw [hnode]
  cases hm : s.graph.node? (s.nodeId (toString (s.position.direction + 1))) with
  | none =>
    have hnone : s.nextDirection.graph.node?
        (Node.ofDirection s.sceneId (s.position.direction + 1) text).id = none := hm
    rw [addNode_of_none hnone]
    exact Or.inr ⟨rfl, _, rfl⟩
  | some m =>
    have hsome : s.nextDirection.graph.node?
        (Node.ofDirection s.sceneId (s.position.direction + 1) text).id = some m := hm
    rcases (h.of_node? hm).2 with hk | ⟨-, k, hle, hk⟩
    · have hother : m.kind ≠ .direction := by rw [hk]; decide
      rw [addNode_of_other_kind hsome hother]
      exact Or.inl ⟨⟨m, hm, hk⟩, rfl⟩
    · -- no direction has a number that high
      have := toString_inj.mp hk
      omega

/-- Someone comes on stage, unless the name is the number of a direction in the scene. -/
theorem Accounted.enter_cases (h : s.Accounted v) (name : String) (tags : List String) :
    (∃ k : Nat, name = toString k ∧ s.graph.Holds .direction (s.nodeId name) ∧
      s.enter name tags = (.error (.identifierCollision (s.nodeId name)), s)) ∨
    (s.graph.Holds .character (s.nodeId name) ∧ s.enter name tags = (.ok false, s)) ∨
    s.graph.node? (s.nodeId name) = none ∧ ∃ notes, s.enter name tags = (.ok true, { s with
      graph := { s.graph with nodes := s.graph.nodes ++ [s.characterNode name tags] }
      notes := notes }) := by
  unfold enter
  cases hm : s.graph.node? (s.nodeId name) with
  | none =>
    have hnone : s.graph.node? (s.characterNode name tags).id = none := hm
    rw [addNode_of_none hnone]
    exact Or.inr (Or.inr ⟨rfl, _, rfl⟩)
  | some m =>
    have hsome : s.graph.node? (s.characterNode name tags).id = some m := hm
    rcases (h.of_node? hm).2 with hk | ⟨hk, k, -, hname⟩
    · rw [addNode_of_same_kind hsome hk]
      exact Or.inr (Or.inl ⟨⟨m, hm, hk⟩, rfl⟩)
    · have hother : m.kind ≠ .character := by rw [hk]; decide
      rw [addNode_of_other_kind hsome hother]
      exact Or.inl ⟨k, hname, ⟨m, hm, hk⟩, rfl⟩

/-- An edge is added if both its ends are there, and otherwise nothing happens. -/
theorem address_cases (s : Stage) (speaker : String) (target : Target) (text : String)
    (tags : List String) :
    (s.graph.contains (s.nodeId speaker) = true ∧
      s.graph.contains (s.nodeId target.localName) = true ∧
      ∃ notes, s.address speaker target text tags = (.ok (), { s with
        graph := { s.graph with edges := s.graph.edges ++ [s.edgeTo speaker target text tags] }
        notes := notes })) ∨
    ∃ fault, s.address speaker target text tags = (.error fault, s) := by
  unfold address addEdge
  rcases s.graph.addEdge_cases (s.edgeTo speaker target text tags) with
    ⟨hs, ht, hok⟩ | ⟨endpoint, herr⟩
  · rw [hok]
    exact Or.inl ⟨hs, ht, _, rfl⟩
  · rw [herr]
    exact Or.inr ⟨_, rfl⟩

/-- An operation adds an edge, both ends of which are in the current scene. -/
def Links (s : Stage) (op : Operation) (e : Edge) : Prop :=
  ∃ speaker target text tags s', op = .address speaker target text tags ∧
    s.address speaker target text tags = (.ok (), s') ∧ e = s.edgeTo speaker target text tags ∧
    s.graph.Within e.source s.sceneId ∧ s.graph.Within e.target s.sceneId

/-- What an operation has done to a stage: it has moved the counters on to `p`, and has added nodes
and edges. -/
structure Effect (s : Stage) (v : Vocabulary) (op : Operation) (outcome : Except Fault Unit)
    (p : Position) (nodes : List Node) (edges : List Edge) (notes : List Note) : Prop where
  eq : s.operate op = (outcome, { s with
    position := p
    graph := { nodes := s.graph.nodes ++ nodes, edges := s.graph.edges ++ edges }
    notes := notes })
  upto : s.position.Upto p
  /-- The nodes are placed where the counters stand now. -/
  placed : ∀ n ∈ nodes, n.Placed v p
  links : ∀ e ∈ edges, s.Links op e
  /-- A failure adds nothing. -/
  failed : ∀ fault, outcome = .error fault → nodes = [] ∧ edges = [] ∧ notes = s.notes ∧
    (p = s.position ∨ p = s.nextDirection.position)

theorem upto_position (s : Stage) : s.position.Upto s.position :=
  Or.inr ⟨rfl, rfl, Nat.le_refl _⟩

theorem effect_of_stay {op : Operation} {outcome : Except Fault Unit}
    (h : s.operate op = (outcome, s)) : s.Effect v op outcome s.position [] [] s.notes where
  eq := by rw [h, List.append_nil, List.append_nil]
  upto := s.upto_position
  placed := nofun
  links := nofun
  failed _ _ := ⟨rfl, rfl, rfl, Or.inl rfl⟩

theorem effect_openAct (s : Stage) (v : Vocabulary) :
    ∃ outcome p notes, s.Effect v .openAct outcome p [] [] notes := by
  rcases s.openAct_cases with he | ⟨notes, he⟩
  · exact ⟨_, _, _, effect_of_stay he⟩
  · refine ⟨.ok (), s.nextAct.position, notes, ?_, ?_, nofun, nofun, nofun⟩
    · rw [operate, he, List.append_nil, List.append_nil]
      rfl
    · exact Or.inl (Or.inl (Nat.lt_succ_self _))

theorem Accounted.effect_openScene (h : s.Accounted v) : ∃ notes,
    s.Effect v .openScene (.ok ()) s.nextScene.position [s.nextScene.sceneNode] [] notes := by
  obtain ⟨notes, he⟩ := h.openScene_eq_ok
  refine ⟨notes, ?_, ?_, ?_, nofun, nofun⟩
  · rw [operate, he, List.append_nil]
    rfl
  · exact Or.inl (Or.inr ⟨rfl, Nat.lt_succ_self _⟩)
  · intro n hn
    have hnode : s.nextScene.sceneNode =
        { id := v.sceneId s.position.act (s.position.scene + 1), kind := .scene
          label := v.sceneLabel (s.position.scene + 1) } := by
      rw [← h.vocabulary]
      rfl
    rw [List.mem_singleton.mp hn, hnode]
    exact .scene (Or.inr ⟨rfl, Nat.le_refl _⟩)

theorem Accounted.effect_addDirection (h : s.Accounted v) (text : String) :
    ∃ outcome nodes notes,
      s.Effect v (.addDirection text) outcome s.nextDirection.position nodes [] notes := by
  have hnext : s.position.Upto s.nextDirection.position := Or.inr ⟨rfl, rfl, Nat.le_succ _⟩
  rcases h.addDirection_cases text with ⟨-, he⟩ | ⟨-, notes, he⟩
  · -- the counter has moved although nothing is added
    refine ⟨.error (.identifierCollision (s.nodeId (toString (s.position.direction + 1)))), [],
      s.notes, ?_, hnext, nofun, nofun, fun _ _ => ⟨rfl, rfl, rfl, Or.inr rfl⟩⟩
    rw [operate, he, List.append_nil, List.append_nil]
    rfl
  · refine ⟨.ok (), [.ofDirection s.sceneId (s.position.direction + 1) text], notes, ?_, hnext, ?_,
      nofun, nofun⟩
    · rw [operate, he, List.append_nil]
      rfl
    · intro n hn
      rw [List.mem_singleton.mp hn, h.sceneId]
      exact .direction text (Or.inr ⟨rfl, Nat.le_refl _⟩) fun _ _ => Nat.le_refl _

theorem Accounted.effect_enter (h : s.Accounted v) (name : String) (tags : List String) :
    ∃ outcome nodes notes,
      s.Effect v (.enter name tags) outcome s.position nodes [] notes := by
  rcases h.enter_cases name tags with ⟨-, -, -, he⟩ | ⟨-, he⟩ | ⟨-, notes, he⟩
  · exact ⟨.error (.identifierCollision (s.nodeId name)), _, _,
      effect_of_stay (by rw [operate, he]; rfl)⟩
  · exact ⟨.ok (), _, _, effect_of_stay (by rw [operate, he]; rfl)⟩
  · refine ⟨.ok (), [s.characterNode name tags], notes, ?_, s.upto_position, ?_, nofun, nofun⟩
    · rw [operate, he, List.append_nil]
      rfl
    · intro n hn
      have hnode : s.characterNode name tags
          = .ofCharacter (v.sceneId s.position.act s.position.scene) ⟨name, "", tags⟩ := by
        rw [← h.sceneId]
        rfl
      rw [List.mem_singleton.mp hn, hnode]
      exact .character _ (Or.inr ⟨rfl, Nat.le_refl _⟩)

theorem Accounted.effect_address (h : s.Accounted v) (speaker : String) (target : Target)
    (text : String) (tags : List String) : ∃ outcome edges notes,
      s.Effect v (.address speaker target text tags) outcome s.position [] edges notes := by
  rcases s.address_cases speaker target text tags with ⟨hs, ht, notes, he⟩ | ⟨fault, he⟩
  · refine ⟨.ok (), [_], notes, he.trans (by rw [List.append_nil]), s.upto_position, nofun, ?_,
      nofun⟩
    intro e hmem
    rw [List.mem_singleton.mp hmem]
    exact ⟨_, _, _, _, _, rfl, he, rfl, h.within_of_contains hs, h.within_of_contains ht⟩
  · exact ⟨_, _, _, effect_of_stay he⟩

/-- **What an operation can do.** The counters move on, what is added is placed where they stand
then, and a failure adds nothing. -/
theorem Accounted.exists_effect (h : s.Accounted v) (op : Operation) :
    ∃ outcome p nodes edges notes, s.Effect v op outcome p nodes edges notes := by
  cases op with
  | openAct =>
    obtain ⟨outcome, p, notes, heffect⟩ := s.effect_openAct v
    exact ⟨outcome, p, [], [], notes, heffect⟩
  | openScene =>
    obtain ⟨notes, heffect⟩ := h.effect_openScene
    exact ⟨_, _, _, [], notes, heffect⟩
  | addDirection text =>
    obtain ⟨outcome, nodes, notes, heffect⟩ := h.effect_addDirection text
    exact ⟨outcome, _, nodes, [], notes, heffect⟩
  | enter name tags =>
    obtain ⟨outcome, nodes, notes, heffect⟩ := h.effect_enter name tags
    exact ⟨outcome, _, nodes, [], notes, heffect⟩
  | address speaker target text tags =>
    obtain ⟨outcome, edges, notes, heffect⟩ := h.effect_address speaker target text tags
    exact ⟨outcome, _, [], edges, notes, heffect⟩

/-! ## What a run does -/

theorem accounted_fresh (v : Vocabulary) : ({ vocabulary := v } : Stage).Accounted v where
  vocabulary := rfl
  nodes := nofun

theorem Accounted.operate (h : s.Accounted v) (op : Operation) :
    (s.operate op).2.Accounted v := by
  obtain ⟨outcome, p, nodes, edges, notes, heffect⟩ := h.exists_effect op
  rw [heffect.eq]
  refine ⟨h.vocabulary, fun n hn => ?_⟩
  rcases List.mem_append.mp hn with hold | hnew
  · exact (h.nodes n hold).mono heffect.upto
  · exact heffect.placed n hnew

theorem accounted_after (v : Vocabulary) (ops : List Operation) : (after v ops).Accounted v := by
  induction ops using List.reverseRecOn with
  | nil => exact accounted_fresh v
  | append_singleton ops op ih =>
    rw [after_append_singleton]
    exact ih.operate op

/-! ## What has come on stage -/

/-- A node of the given kind and id that an operation adds, or finds there already. -/
def Gives (s : Stage) (kind : NodeKind) (id : String) : Operation → Prop
  | .openAct => False
  | .openScene => kind = .scene ∧ id = s.nextScene.sceneId
  | .addDirection text => kind = .direction ∧
    ∃ k s', s.addDirection text = (.ok k, s') ∧ id = s.nodeId (toString k)
  | .enter name tags => kind = .character ∧
    (∃ created s', s.enter name tags = (.ok created, s')) ∧ id = s.nodeId name
  | .address .. => False

variable {kind : NodeKind} {id : String} {ops : List Operation} {act scene number : Nat}

theorem Accounted.holds_operate (h : s.Accounted v) (op : Operation) :
    (s.operate op).2.graph.Holds kind id ↔ s.graph.Holds kind id ∨ s.Gives kind id op := by
  cases op with
  | openAct =>
    rw [Gives, or_false]
    rcases s.openAct_cases with he | ⟨notes, he⟩
    · rw [Stage.operate, he]
    · rw [Stage.operate, he]
      exact Iff.rfl
  | openScene =>
    obtain ⟨notes, he⟩ := h.openScene_eq_ok
    simp only [Stage.operate, he]
    refine (Graph.holds_append h.node?_nextScene).trans (or_congr_right ?_)
    exact and_congr eq_comm eq_comm
  | addDirection text =>
    rcases h.addDirection_cases text with ⟨-, he⟩ | ⟨hnone, notes, he⟩
    · simp only [Stage.operate, he, Gives]
      simp [nextDirection]
    · simp only [Stage.operate, he, Gives]
      refine (Graph.holds_append hnone).trans (or_congr_right (and_congr eq_comm ?_))
      constructor
      · rintro rfl
        exact ⟨_, _, rfl, rfl⟩
      · rintro ⟨k, s', hok, rfl⟩
        cases hok
        rfl
  | enter name tags =>
    rcases h.enter_cases name tags with ⟨k, -, -, he⟩ | ⟨hold, he⟩ | ⟨hnone, notes, he⟩
    · simp [Stage.operate, he, Gives]
    · -- who is there already is there afterwards
      simp only [Stage.operate, he, Gives]
      refine (or_iff_left_of_imp ?_).symm
      rintro ⟨rfl, -, rfl⟩
      exact hold
    · simp only [Stage.operate, he, Gives]
      refine (Graph.holds_append hnone).trans (or_congr_right (and_congr eq_comm ?_))
      constructor
      · rintro rfl
        exact ⟨⟨_, _, rfl⟩, rfl⟩
      · rintro ⟨-, rfl⟩
        rfl
  | address speaker target text tags =>
    rcases s.address_cases speaker target text tags with ⟨-, -, notes, he⟩ | ⟨fault, he⟩
    · rw [Stage.operate, he, Gives, or_false]
      exact Iff.rfl
    · rw [Stage.operate, he, Gives, or_false]

/-- What is in the graph after a run has been given by one of its operations. -/
theorem holds_after : (after v ops).graph.Holds kind id ↔
    Sometime (fun before op => (after v before).Gives kind id op) ops := by
  induction ops using List.reverseRecOn with
  | nil => exact iff_of_false (Graph.not_holds_of_none rfl) (not_sometime_nil _)
  | append_singleton ops op ih =>
    rw [after_append_singleton, (accounted_after v ops).holds_operate, ih,
      sometime_append_singleton]

/-- Who has come on stage in a scene has a node there. -/
theorem entered_iff : Entered v ops act scene name ↔
    (after v ops).graph.Holds .character (localId (v.sceneId act scene) name) := by
  refine (sometime_congr fun before op => ?_).trans holds_after.symm
  have h := accounted_after v before
  constructor
  · rintro ⟨tags, created, s', rfl, he, rfl, rfl⟩
    exact ⟨rfl, ⟨created, s', he⟩, by rw [Stage.nodeId_eq, h.sceneId]⟩
  · intro hgives
    cases op with
    | enter other tags =>
      obtain ⟨-, ⟨created, s', he⟩, hid⟩ := hgives
      rw [Stage.nodeId_eq, h.sceneId] at hid
      obtain ⟨⟨rfl, rfl⟩, rfl⟩ := Vocabulary.localId_inj.mp hid
      exact ⟨tags, created, s', rfl, he, rfl, rfl⟩
    | openAct => cases hgives
    | openScene => cases hgives.1
    | addDirection text => cases hgives.1
    | address speaker target text tags => cases hgives

/-- A direction that there has been in a scene has a node there. -/
theorem directed_iff : Directed v ops act scene number ↔
    (after v ops).graph.Holds .direction (localId (v.sceneId act scene) (toString number)) := by
  refine (sometime_congr fun before op => ?_).trans holds_after.symm
  have h := accounted_after v before
  constructor
  · rintro ⟨text, s', rfl, he, rfl, rfl⟩
    exact ⟨rfl, number, s', he, by rw [Stage.nodeId_eq, h.sceneId]⟩
  · intro hgives
    cases op with
    | addDirection text =>
      obtain ⟨-, k, s', he, hid⟩ := hgives
      rw [Stage.nodeId_eq, h.sceneId] at hid
      obtain ⟨⟨rfl, rfl⟩, hk⟩ := Vocabulary.localId_inj.mp hid
      obtain rfl := toString_inj.mp hk
      exact ⟨text, s', rfl, he, rfl, rfl⟩
    | openAct => cases hgives
    | openScene => cases hgives.1
    | enter other tags => cases hgives.1
    | address speaker target text tags => cases hgives

/-! ## Edges -/

/-- What has been found under an id is found there for ever. -/
theorem Accounted.node?_operate (h : s.Accounted v) (hm : s.graph.node? id = some m)
    (op : Operation) : (s.operate op).2.graph.node? id = some m := by
  obtain ⟨outcome, p, nodes, edges, notes, heffect⟩ := h.exists_effect op
  rw [heffect.eq]
  unfold Graph.node? at hm ⊢
  rw [List.find?_append, hm, Option.some_or]

/-- Each edge has been added between two nodes of the scene that was the current one. -/
theorem within_of_mem_edges {e : Edge} (he : e ∈ (after v ops).graph.edges) :
    ∃ id, Sometime (fun before op => (after v before).sceneId = id ∧
        ∃ speaker target text tags s', op = .address speaker target text tags ∧
          (after v before).address speaker target text tags = (.ok (), s') ∧
          e = (after v before).edgeTo speaker target text tags) ops ∧
      (after v ops).graph.Within e.source id ∧ (after v ops).graph.Within e.target id := by
  induction ops using List.reverseRecOn with
  | nil => cases he
  | append_singleton ops op ih =>
    have h := accounted_after v ops
    have hkeep : ∀ {x id}, (after v ops).graph.Within x id →
        (after v (ops ++ [op])).graph.Within x id := by
      rintro x id ⟨n, hn, hp⟩
      rw [after_append_singleton]
      exact ⟨n, h.node?_operate hn op, hp⟩
    obtain ⟨outcome, p, nodes, edges, notes, heffect⟩ := h.exists_effect op
    rw [after_append_singleton, heffect.eq] at he
    rcases List.mem_append.mp he with hold | hnew
    · obtain ⟨id, hsome, hsource, htarget⟩ := ih hold
      exact ⟨id, sometime_append_singleton.mpr (Or.inl hsome), hkeep hsource, hkeep htarget⟩
    · obtain ⟨speaker, target, text, tags, s', hop, hok, hedge, hsource, htarget⟩ :=
        heffect.links e hnew
      refine ⟨_, sometime_append_singleton.mpr (Or.inr ?_), hkeep hsource, hkeep htarget⟩
      exact ⟨rfl, speaker, target, text, tags, s', hop, hok, hedge⟩

/-! ## What can be relied on -/

/-- What can be relied on when some operations have led to a stage. -/
structure Reliable (v : Vocabulary) (ops : List Operation) (s : Stage) : Prop where
  /-- An id in a scene gives the act, the scene and the name, and no scene has one like it. -/
  ids : ∀ a b : Stage, a.vocabulary = v → b.vocabulary = v → ∀ x y,
    (a.nodeId x = b.nodeId y ↔
      (a.position.act = b.position.act ∧ a.position.scene = b.position.scene) ∧ x = y) ∧
    a.nodeId x ≠ b.sceneId
  /-- A scene always opens, and has a new node. -/
  openScene : ∃ s', s.openScene = (.ok s'.sceneNode, s') ∧
    s'.position.act = s.position.act ∧ s'.position.scene = s.position.scene + 1 ∧
    s.graph.node? s'.sceneId = none ∧
    s'.graph = { s.graph with nodes := s.graph.nodes ++ [s'.sceneNode] }
  /-- A direction has a new node, unless somebody in the scene has its number for a name. -/
  addDirection : ∀ text number, number = s.position.direction + 1 →
    (Entered v ops s.position.act s.position.scene (toString number) →
      s.addDirection text
        = (.error (.identifierCollision (s.nodeId (toString number))), s.nextDirection)) ∧
    (¬Entered v ops s.position.act s.position.scene (toString number) →
      s.graph.node? (s.nodeId (toString number)) = none ∧
      ∃ s', s.addDirection text = (.ok number, s') ∧
        s'.graph = { s.graph with nodes := s.graph.nodes ++
          [.ofDirection s.sceneId number text] })
  /-- Whoever enters is new if nobody of that name has entered the scene, and cannot enter if the
  name is the number of a direction in it. -/
  enter : ∀ name tags,
    ((∃ k : Nat, name = toString k ∧ Directed v ops s.position.act s.position.scene k) →
      s.enter name tags = (.error (.identifierCollision (s.nodeId name)), s)) ∧
    ((¬∃ k : Nat, name = toString k ∧ Directed v ops s.position.act s.position.scene k) →
      (Entered v ops s.position.act s.position.scene name →
        s.enter name tags = (.ok false, s)) ∧
      (¬Entered v ops s.position.act s.position.scene name →
        s.graph.node? (s.nodeId name) = none ∧
        ∃ s', s.enter name tags = (.ok true, s') ∧
          s'.graph = { s.graph with nodes := s.graph.nodes ++ [s.characterNode name tags] }))
  /-- Both ends of an edge are in the scene that was the current one when it was added. -/
  edges : ∀ e ∈ s.graph.edges, ∃ id, Sometime (fun before op => (after v before).sceneId = id ∧
      ∃ speaker target text tags s', op = .address speaker target text tags ∧
        (after v before).address speaker target text tags = (.ok (), s') ∧
        e = (after v before).edgeTo speaker target text tags) ops ∧
    s.graph.Within e.source id ∧ s.graph.Within e.target id
  /-- A failure changes nothing but, perhaps, the counter of directions. -/
  failure : ∀ op fault s', s.operate op = (.error fault, s') →
    s'.graph = s.graph ∧ (s' = s ∨ s' = s.nextDirection)

theorem Accounted.failure {op : Operation} {fault : Fault} {s' : Stage} (h : s.Accounted v)
    (he : s.operate op = (.error fault, s')) :
    s'.graph = s.graph ∧ (s' = s ∨ s' = s.nextDirection) := by
  obtain ⟨outcome, p, nodes, edges, notes, heffect⟩ := h.exists_effect op
  have heq := heffect.eq
  rw [he, Prod.mk.injEq] at heq
  obtain ⟨hout, rfl⟩ := heq
  obtain ⟨rfl, rfl, rfl, hp⟩ := heffect.failed fault hout.symm
  simp only [List.append_nil, true_and]
  rcases hp with rfl | rfl
  · exact Or.inl rfl
  · exact Or.inr rfl

/-- **What can be relied on after operations in any order.** -/
theorem reliable_after (v : Vocabulary) (ops : List Operation) :
    Reliable v ops (after v ops) := by
  have h := accounted_after v ops
  have hchar : ∀ name, Entered v ops (after v ops).position.act (after v ops).position.scene name ↔
      (after v ops).graph.Holds .character ((after v ops).nodeId name) := by
    intro name
    rw [entered_iff, Stage.nodeId_eq, h.sceneId]
  have hdir : ∀ k : Nat, Directed v ops (after v ops).position.act (after v ops).position.scene k ↔
      (after v ops).graph.Holds .direction ((after v ops).nodeId (toString k)) := by
    intro k
    rw [directed_iff, Stage.nodeId_eq, h.sceneId]
  refine ⟨?_, ?_, ?_, ?_, fun _ => within_of_mem_edges, fun op fault s' => h.failure⟩
  · intro a b ha hb x y
    rw [Stage.nodeId_eq, Stage.nodeId_eq, Stage.sceneId_eq, Stage.sceneId_eq, ha, hb]
    exact ⟨Vocabulary.localId_inj, Vocabulary.localId_ne_sceneId⟩
  · obtain ⟨notes, he⟩ := h.openScene_eq_ok
    -- the stage is named here, as the look-up in the old graph does not tell it
    exact ⟨{ (after v ops).nextScene with
      graph := { (after v ops).graph with
        nodes := (after v ops).graph.nodes ++ [(after v ops).nextScene.sceneNode] }
      notes := notes }, he, rfl, rfl, h.node?_nextScene, rfl⟩
  · rintro text number rfl
    rw [hchar]
    rcases h.addDirection_cases text with ⟨hheld, he⟩ | ⟨hnone, notes, he⟩
    · exact ⟨fun _ => he, fun hfree => absurd hheld hfree⟩
    · exact ⟨fun hheld => absurd hheld (Graph.not_holds_of_none hnone),
        fun _ => ⟨hnone, _, he, rfl⟩⟩
  · intro name tags
    simp only [hchar, hdir]
    rcases h.enter_cases name tags with ⟨k, rfl, hheld, he⟩ | ⟨hheld, he⟩ | ⟨hnone, notes, he⟩
    · exact ⟨fun _ => he, fun hfree => absurd ⟨k, rfl, hheld⟩ hfree⟩
    · refine ⟨?_, fun _ => ⟨fun _ => he, fun hfree => absurd hheld hfree⟩⟩
      rintro ⟨k, rfl, hother⟩
      cases hother.kind_inj hheld
    · refine ⟨?_, fun _ => ⟨?_, fun _ => ⟨hnone, _, he, rfl⟩⟩⟩
      · rintro ⟨k, rfl, hheld⟩
        exact absurd hheld (Graph.not_holds_of_none hnone)
      · exact fun hheld => absurd hheld (Graph.not_holds_of_none hnone)

end Stage

end Dramaturgy
