import Dramaturgy.Proofs.Floor

/-!
# The form of every play

Edges are added by ids alone. Nothing looks at the kinds of the nodes they join, nor at the scenes
these are in, and names and headings are any texts. What keeps a graph in form is that an id can be
taken apart, and that a clash between a name and the number of a direction ends the performance.

`Graph.WellFormed` collects what follows, and `wellFormed_of_perform` says it of every play:

* a parent is a scene that stands earlier, and the scenes are what has no parent;
* an edge leads from a character to a character or a direction of the same scene;
* at most one edge leads to a direction, and that is a bare one (`filter_target_direction`: it is the
  one that the direction itself has added).
-/

namespace Dramaturgy

open Event

/-! ## Graphs in form -/

namespace Graph

/-- Whoever contains a node is a scene, and stands before it. -/
def ParentsFirst (nodes : List Node) : Prop :=
  ∀ before n after id, nodes = before ++ n :: after → n.parent = some id →
    ∃ m ∈ before, m.id = id ∧ m.kind = .scene

/-- What a graph of scenes has to meet. -/
structure WellFormed (g : Graph) : Prop where
  /-- No two nodes have one id. -/
  distinct : (g.nodes.map (·.id)).Nodup
  /-- The nodes that nothing contains are the scenes. -/
  roots : ∀ n ∈ g.nodes, n.parent = none ↔ n.kind = .scene
  parents : ParentsFirst g.nodes
  /-- An edge leads from a character to a character or a direction of the same scene. -/
  ends : ∀ e ∈ g.edges, ∃ a ∈ g.nodes, ∃ b ∈ g.nodes, a.id = e.source ∧ b.id = e.target ∧
    a.kind = .character ∧ (b.kind = .character ∨ b.kind = .direction) ∧ a.parent = b.parent
  /-- No edge leads away from a direction. -/
  silent : ∀ n ∈ g.nodes, n.kind = .direction → ∀ e ∈ g.edges, e.source ≠ n.id
  /-- A direction is pointed at no more than once. -/
  once : ∀ n ∈ g.nodes, n.kind = .direction → (g.edges.filter (·.target = n.id)).length ≤ 1
  /-- Whatever points at a direction says nothing. -/
  wordless : ∀ n ∈ g.nodes, n.kind = .direction → ∀ e ∈ g.edges, e.target = n.id →
    e.label = "" ∧ e.tags = []

variable {g : Graph} {nodes inside : List Node} {scene m n : Node}

theorem parentsFirst_nil : ParentsFirst [] := by
  intro before n after id h
  simp at h

/-- A scene that opens, and what it contains, may be added at the end. -/
theorem ParentsFirst.append_scene (h : ParentsFirst nodes) (hkind : scene.kind = .scene)
    (hroot : scene.parent = none) (hin : ∀ n ∈ inside, n.parent = some scene.id) :
    ParentsFirst (nodes ++ scene :: inside) := by
  intro before n after id heq hid
  have hne : n ≠ scene := by
    rintro rfl
    rw [hroot] at hid
    cases hid
  rcases List.append_eq_append_iff.mp heq with ⟨mid, rfl, hmid⟩ | ⟨mid, rfl, hmid⟩
  · -- the node stands behind the old ones
    cases mid with
    | nil => exact absurd (List.cons.inj hmid).1.symm hne
    | cons first mid =>
      obtain ⟨rfl, rfl⟩ := List.cons.inj hmid
      have hparent := hin n (by simp)
      rw [hid, Option.some.injEq] at hparent
      exact ⟨scene, by simp, hparent.symm, hkind⟩
  · -- the node is one of the old ones
    cases mid with
    | nil => exact absurd (List.cons.inj hmid).1 hne
    | cons first mid =>
      obtain ⟨rfl, -⟩ := List.cons.inj hmid
      exact h before n mid id rfl hid

/-- A node is known by its id. -/
theorem eq_of_id (h : (g.nodes.map (·.id)).Nodup) (hm : m ∈ g.nodes) (hn : n ∈ g.nodes)
    (hid : m.id = n.id) : m = n :=
  List.inj_on_of_nodup_map h hm hn hid

end Graph

/-! ## The edges of a scene -/

namespace Event

variable {scene : String} {events past rest xs ys : List (Event Character)}
  {e : Event Character} {d : Edge} {text : String} {k : Nat}

/-- An edge to the number of a direction comes from the direction with that number. -/
theorem number_of_target (hu : Unclashed (xs ++ e :: ys)) (hd : d ∈ e.edges scene xs) (h1 : 1 ≤ k)
    (hk : k ≤ directionCount (xs ++ e :: ys)) (htarget : d.target = localId scene (toString k)) :
    directionCount xs + 1 = k ∧ e.isDirection = true := by
  cases hf : floor? xs with
  | none =>
    rw [Event.edges, hf] at hd
    cases hd
  | some speaker =>
    rw [edges_of_floor? hf] at hd
    -- someone of that name would clash with the direction
    have hclash : ∀ c, e.who? = some c → localId scene c.name ≠ localId scene (toString k) := by
      intro c hc hid
      exact hu c.name (by simp [hc]) k h1 hk (localId_right_inj.mp hid)
    cases e with
    | direction text =>
      obtain rfl := List.mem_singleton.mp hd
      exact ⟨toString_inj.mp (localId_right_inj.mp htarget), rfl⟩
    | speech c =>
      rw [edgesFrom] at hd
      split at hd
      · cases hd
      · obtain rfl := List.mem_singleton.mp hd
        exact absurd htarget (hclash c rfl)
    | address c words tags =>
      obtain rfl := List.mem_singleton.mp hd
      exact absurd htarget (hclash c rfl)

/-- Before there is a direction of some number, no edge leads to it. -/
theorem filter_target_of_lt (hu : Unclashed (xs ++ ys)) (hlt : directionCount xs < k)
    (hk : k ≤ directionCount (xs ++ ys)) :
    (inTurn (edges scene) xs).filter (·.target = localId scene (toString k)) = [] := by
  refine List.filter_eq_nil_iff.mpr fun d hd htarget => ?_
  obtain ⟨past, e, rest, rfl, hmem⟩ := mem_inTurn.mp hd
  rw [List.append_assoc, List.cons_append] at hu hk
  obtain ⟨hnumber, he⟩ := number_of_target hu hmem (by omega) hk (by simpa using htarget)
  rw [directionCount_append, directionCount_cons, he] at hlt
  simp at hlt
  omega

/-- The edges to a direction are those that it has added itself. -/
theorem filter_target_direction (hu : Unclashed (past ++ .direction text :: rest)) :
    (inTurn (edges scene) (past ++ .direction text :: rest)).filter
        (·.target = localId scene (toString (directionCount past + 1)))
      = (Event.direction text).edges scene past := by
  induction rest using List.reverseRecOn with
  | nil =>
    rw [inTurn_append_singleton, List.filter_append,
      filter_target_of_lt hu (by omega) (by simp [isDirection]), List.nil_append,
      List.filter_eq_self]
    intro d hd
    cases hf : floor? past with
    | none =>
      rw [Event.edges, hf] at hd
      cases hd
    | some speaker =>
      rw [edges_of_floor? hf] at hd
      obtain rfl := List.mem_singleton.mp hd
      simp
  | append_singleton rest e ih =>
    rw [← List.cons_append, ← List.append_assoc] at hu ⊢
    rw [inTurn_append_singleton, List.filter_append, ih hu.of_append, List.append_right_eq_self]
    -- what comes later has a higher number
    refine List.filter_eq_nil_iff.mpr fun d hd htarget => ?_
    obtain ⟨hnumber, -⟩ := number_of_target hu hd (k := directionCount past + 1) (by omega)
      (by simp [isDirection]) (by simpa using htarget)
    simp [isDirection] at hnumber

/-- What points at a direction is one bare edge, if it is anything. -/
theorem edges_direction (scene : String) (past : List (Event Character)) (text : String) :
    ((Event.direction text).edges scene past).length ≤ 1 ∧
      ∀ d ∈ (Event.direction text).edges scene past, d.label = "" ∧ d.tags = [] := by
  unfold Event.edges
  cases floor? past with
  | none => simp
  | some speaker => simp [edgesFrom]

/-- Both ends of an edge are nodes in the scene, the one it leads from that of a character. -/
theorem nodes_of_mem_edges (h : d ∈ inTurn (edges scene) events) :
    ∃ a ∈ inTurn (nodes scene) events, ∃ b ∈ inTurn (nodes scene) events,
      a.id = d.source ∧ b.id = d.target ∧ a.kind = .character ∧
      (b.kind = .character ∨ b.kind = .direction) := by
  obtain ⟨past, e, rest, speaker, hevents, hspeaker, hsource, htarget⟩ := mem_edges_cases h
  have hname : speaker.name ∈ names events := by
    rw [hevents, names_append]
    exact List.mem_append_left _ (mem_names_of_floor? hspeaker)
  obtain ⟨c, -, hc, hmem⟩ := exists_ofCharacter scene hname
  refine ⟨_, hmem, ?_⟩
  rcases htarget with ⟨text, rfl, htarget⟩ | ⟨w, hw, htarget⟩
  · refine ⟨_, ofDirection_mem scene hevents, ?_, htarget.symm, rfl, Or.inr rfl⟩
    rw [hsource, ← hc]
    rfl
  · have hname' : w.name ∈ names events := by
      rw [hevents]
      simp [hw]
    obtain ⟨b, -, hb, hmem'⟩ := exists_ofCharacter scene hname'
    refine ⟨_, hmem', ?_, ?_, rfl, Or.inl rfl⟩
    · rw [hsource, ← hc]
      rfl
    · rw [htarget, ← hb]
      rfl

end Event

/-! ## The outline is in form -/

namespace Vocabulary

variable {v : Vocabulary} {scenes : List (List (Event Character))}
  {events : List (Event Character)} {n : Node} {e : Edge} {name : String} {i : Nat}

theorem parentsFirst_outline : Graph.ParentsFirst (v.outline scenes).nodes := by
  induction scenes using List.reverseRecOn with
  | nil => exact Graph.parentsFirst_nil
  | append_singleton done current ih =>
    rw [nodes_outline_append_singleton]
    exact ih.append_scene rfl rfl fun n hn => (id_of_mem_nodes hn).2

/-- A node of the outline is that of a scene, or it is in one. -/
theorem mem_nodes_outline_cases (h : n ∈ (v.outline scenes).nodes) :
    (∃ i, n = v.sceneNode (i + 1)) ∨
      ∃ i events, scenes[i]? = some events ∧ n ∈ inTurn (nodes (v.sceneId 1 (i + 1))) events := by
  obtain ⟨i, events, hget, hmem⟩ := mem_nodes_outline.mp h
  rcases List.mem_cons.mp hmem with rfl | hmem
  · exact Or.inl ⟨i, rfl⟩
  · exact Or.inr ⟨i, events, hget, hmem⟩

/-- A direction of the outline is one of the events of some scene. -/
theorem direction_of_mem_outline (h : n ∈ (v.outline scenes).nodes) (hk : n.kind = .direction) :
    ∃ i past text rest, scenes[i]? = some (past ++ .direction text :: rest) ∧
      n = Node.ofDirection (v.sceneId 1 (i + 1)) (directionCount past + 1) text := by
  rcases mem_nodes_outline_cases h with ⟨i, rfl⟩ | ⟨i, events, hget, hmem⟩
  · cases hk
  · rcases mem_nodes_cases hmem with ⟨past, text, rest, rfl, hn⟩ | ⟨c, -, rfl⟩
    · exact ⟨i, past, text, rest, hget, hn⟩
    · cases hk

/-- The edges to an id in a scene are edges of that scene. -/
theorem filter_target (h : scenes[i]? = some events) :
    (v.outline scenes).edges.filter (·.target = localId (v.sceneId 1 (i + 1)) name)
      = (inTurn (edges (v.sceneId 1 (i + 1))) events).filter
          (·.target = localId (v.sceneId 1 (i + 1)) name) := by
  refine filter_flatMap_zipIdx h fun j other hij _ => ?_
  refine List.filter_eq_nil_iff.mpr fun d hd htarget => ?_
  obtain ⟨-, y, hy⟩ := ends_of_mem_edges hd
  obtain ⟨⟨-, hj⟩, -⟩ := localId_inj.mp (hy.symm.trans (by simpa using htarget))
  omega

theorem ends_outline (he : e ∈ (v.outline scenes).edges) :
    ∃ a ∈ (v.outline scenes).nodes, ∃ b ∈ (v.outline scenes).nodes,
      a.id = e.source ∧ b.id = e.target ∧ a.kind = .character ∧
      (b.kind = .character ∨ b.kind = .direction) ∧ a.parent = b.parent := by
  obtain ⟨i, events, hget, hmem⟩ := mem_edges_outline.mp he
  obtain ⟨a, ha, b, hb, hsource, htarget, hka, hkb⟩ := nodes_of_mem_edges hmem
  have hin : ∀ n ∈ inTurn (nodes (v.sceneId 1 (i + 1))) events, n ∈ (v.outline scenes).nodes :=
    fun n hn => mem_nodes_outline.mpr ⟨i, events, hget, List.mem_cons_of_mem _ hn⟩
  refine ⟨a, hin a ha, b, hin b hb, hsource, htarget, hka, hkb, ?_⟩
  rw [(id_of_mem_nodes ha).2, (id_of_mem_nodes hb).2]

theorem wellFormed_outline (hus : ∀ events ∈ scenes, Unclashed events) :
    (v.outline scenes).WellFormed where
  distinct := nodup_ids_outline hus
  roots n hn := by
    rcases mem_nodes_outline_cases hn with ⟨i, rfl⟩ | ⟨i, events, -, hmem⟩
    · exact ⟨fun _ => rfl, fun _ => rfl⟩
    · rcases mem_nodes_cases hmem with ⟨past, text, rest, -, rfl⟩ | ⟨c, -, rfl⟩
      · exact ⟨nofun, nofun⟩
      · exact ⟨nofun, nofun⟩
  parents := parentsFirst_outline
  ends _ he := ends_outline he
  silent n hn hk e he hsource := by
    -- it leads from a character, and that would be the direction
    obtain ⟨a, ha, -, -, hid, -, hka, -⟩ := ends_outline he
    obtain rfl := Graph.eq_of_id (nodup_ids_outline hus) ha hn (hid.trans hsource)
    rw [hka] at hk
    cases hk
  once n hn hk := by
    obtain ⟨i, past, text, rest, hget, rfl⟩ := direction_of_mem_outline hn hk
    have hu := hus _ (List.mem_of_getElem? hget)
    show ((v.outline scenes).edges.filter (·.target = localId _ _)).length ≤ 1
    rw [filter_target hget, filter_target_direction hu]
    exact (edges_direction _ past text).1
  wordless n hn hk e he htarget := by
    obtain ⟨i, past, text, rest, hget, rfl⟩ := direction_of_mem_outline hn hk
    have hu := hus _ (List.mem_of_getElem? hget)
    have hmem : e ∈ (v.outline scenes).edges.filter
        (·.target = localId (v.sceneId 1 (i + 1)) (toString (directionCount past + 1))) :=
      List.mem_filter.mpr ⟨he, decide_eq_true htarget⟩
    rw [filter_target hget, filter_target_direction hu] at hmem
    exact (edges_direction _ past text).2 e hmem

end Vocabulary

/-! ## Plays -/

namespace Script

variable {v : Vocabulary} {script : Script} {play : Play}

/-- Headings without letters. The third scene would have the id `1.1.3`. -/
def numerals : Vocabulary where
  actHeading := ""
  sceneHeading := "1."

/-- A script whose names are taken for other things: for the number of a direction, for nothing at
all, and for something in a scene. -/
def masquerade : Script where
  characters := [.single "2" "A number. [Number]", .single "" "Nobody.", .single "1.1.1" "A place."]
  plot :=
    [.single "1"
      [.scene (.single "1.1"
        [.direction "[A knock.]", .speech (.single "2" ["(To 1.1.1)Who is there?"]),
          .speech (.single "" ["(To 2, 1.1.1)Nobody."])]),
        .scene (.single "1.2" [.speech (.single "1.1.1" ["[Opens.]"])])]]

/-- **The graph of a play is in form.** Its ids are distinct, its parents are scenes that stand
earlier, its edges stay within a scene and lead from characters, and at most one leads to a
direction, without a word. -/
theorem wellFormed_of_perform (h : (script.perform v).outcome = .ok play) :
    play.graph.WellFormed := by
  obtain ⟨-, scenes, -, hus, rfl⟩ := perform_eq_ok_iff.mp h
  exact Vocabulary.wellFormed_outline hus

theorem wellFormed_of_perform_masquerade :
    ∃ play, (masquerade.perform numerals).outcome = .ok play ∧
      play.graph.nodes.map (·.id)
        = ["1.1.1", "1.1.1.1", "1.1.1.2", "1.1.1.1.1.1", "1.1.1.", "1.1.2", "1.1.2.1.1.1",
          "1.1.2.1"] ∧
      play.graph.edges.map (fun e => (e.source, e.target))
        = [("1.1.1.2", "1.1.1.1.1.1"), ("1.1.1.2", "1.1.1."), ("1.1.1.", "1.1.1.2"),
          ("1.1.1.", "1.1.1.1.1.1"), ("1.1.2.1.1.1", "1.1.2.1")] ∧
      play.graph.WellFormed := by
  have h : (masquerade.perform numerals).outcome = .ok _ := rfl
  exact ⟨_, h, rfl, rfl, wellFormed_of_perform h⟩

end Script

end Dramaturgy
