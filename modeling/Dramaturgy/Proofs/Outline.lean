import Dramaturgy.Proofs.Event
import Dramaturgy.Proofs.Graph
import Dramaturgy.Proofs.Identifier

/-!
# The graph that events describe

Each event adds nodes and edges to the graph, and which ones it adds follows from the events before
it in the scene: a direction takes the next number, whoever is mentioned for the first time gets a
node, and whoever has the floor is the source of the edge. `Vocabulary.outline` is the graph of some
scenes, one after the other.

A name of the roster may look like the number of a direction. `Event.Unclashed` says that no such
name gets in the way. Then an id in a scene belongs to a character exactly if the character is on
stage (`kind_of_mem_names`), and to a direction exactly if it is its number
(`kind_of_le_directionCount`).
-/

namespace Dramaturgy

/-! ## What an event adds -/

/-- The node of a direction with the given number. -/
def Node.ofDirection (scene : String) (number : Nat) (text : String) : Node :=
  { id := localId scene (toString number), kind := .direction, label := text, parent := some scene }

/-- The node of a character in a scene. -/
def Node.ofCharacter (scene : String) (c : Character) : Node :=
  { id := localId scene c.name, kind := .character, label := c.name, parent := some scene
    tags := c.tags }

namespace Event

/-- The names of those who speak or are addressed in some events. -/
def names (events : List (Event Character)) : List String :=
  (onstage events).map (·.name)

/-- The node of someone who is mentioned, unless it is there already. -/
def entrance (scene : String) (past : List (Event Character)) (c : Character) : List Node :=
  if c.name ∈ names past then [] else [Node.ofCharacter scene c]

/-- The nodes an event adds, after those before it in the scene. -/
def nodes (scene : String) (past : List (Event Character)) : Event Character → List Node
  | .direction text => [Node.ofDirection scene (directionCount past + 1) text]
  | .speech c => entrance scene past c
  | .address c .. => entrance scene past c

/-- The edges an event adds when the floor is with `speaker`, after those before it in the scene. -/
def edgesFrom (scene : String) (past : List (Event Character)) (speaker : Character) :
    Event Character → List Edge
  | .direction _ =>
    [{ source := localId scene speaker.name
       target := localId scene (toString (directionCount past + 1)) }]
  | .speech c =>
    if c.name ∈ names past then []
    else [{ source := localId scene speaker.name, target := localId scene c.name }]
  | .address c text tags =>
    [{ source := localId scene speaker.name, target := localId scene c.name
       label := withoutFullStop text, tags }]

/-- The edges an event adds, after those before it in the scene. -/
def edges (scene : String) (past : List (Event Character)) (e : Event Character) : List Edge :=
  match floor? past with
  | none => []
  | some speaker => e.edgesFrom scene past speaker

@[simp] theorem names_nil : names [] = [] := rfl

@[simp] theorem names_cons (e : Event Character) (xs : List (Event Character)) :
    names (e :: xs) = (e.who?.map (·.name)).toList ++ names xs := by
  cases e <;> rfl

@[simp] theorem names_append (xs ys : List (Event Character)) :
    names (xs ++ ys) = names xs ++ names ys := by
  simp [names]

theorem mem_names_of_floor? {past : List (Event Character)} {c : Character}
    (h : floor? past = some c) : c.name ∈ names past :=
  List.mem_map_of_mem (mem_onstage_of_floor? h)

end Event

/-! ## The graph of scenes -/

namespace Vocabulary

/-- The node of a scene. -/
def sceneNode (v : Vocabulary) (number : Nat) : Node :=
  { id := v.sceneId 1 number, kind := .scene, label := v.sceneLabel number }

/-- The nodes of a scene: its own, and those its events add. -/
def sceneNodes (v : Vocabulary) (number : Nat) (events : List (Event Character)) : List Node :=
  v.sceneNode number :: inTurn (Event.nodes (v.sceneId 1 number)) events

/-- The edges of a scene. -/
def sceneEdges (v : Vocabulary) (number : Nat) (events : List (Event Character)) : List Edge :=
  inTurn (Event.edges (v.sceneId 1 number)) events

/-- The graph of some scenes, the first of which has number one. -/
def outline (v : Vocabulary) (scenes : List (List (Event Character))) : Graph where
  nodes := (scenes.zipIdx 1).flatMap fun (events, number) => v.sceneNodes number events
  edges := (scenes.zipIdx 1).flatMap fun (events, number) => v.sceneEdges number events

variable {v : Vocabulary} {done : List (List (Event Character))} {current : List (Event Character)}

/-- A numbered element that comes last gives something at the end. -/
theorem flatMap_zipIdx_append_singleton {α β : Type} (f : Nat → α → List β) (xs : List α) (x : α) :
    (((xs ++ [x]).zipIdx 1).flatMap fun (x, number) => f number x)
      = ((xs.zipIdx 1).flatMap fun (x, number) => f number x) ++ f (xs.length + 1) x := by
  simp [List.zipIdx_append, Nat.add_comm]

theorem nodes_outline_append_singleton :
    (v.outline (done ++ [current])).nodes
      = (v.outline done).nodes ++ v.sceneNodes (done.length + 1) current :=
  flatMap_zipIdx_append_singleton ..

theorem edges_outline_append_singleton :
    (v.outline (done ++ [current])).edges
      = (v.outline done).edges ++ v.sceneEdges (done.length + 1) current :=
  flatMap_zipIdx_append_singleton ..

/-- A scene that opens adds its node. -/
theorem outline_open :
    v.outline (done ++ [[]])
      = { nodes := (v.outline done).nodes ++ [v.sceneNode (done.length + 1)]
          edges := (v.outline done).edges } := by
  rw [Graph.mk.injEq]
  refine ⟨?_, ?_⟩
  · rw [nodes_outline_append_singleton, sceneNodes, inTurn_nil]
  · rw [edges_outline_append_singleton, sceneEdges, inTurn_nil, List.append_nil]

/-- An event adds its nodes and its edges. -/
theorem outline_event (e : Event Character) :
    v.outline (done ++ [current ++ [e]])
      = { nodes := (v.outline (done ++ [current])).nodes
            ++ e.nodes (v.sceneId 1 (done.length + 1)) current
          edges := (v.outline (done ++ [current])).edges
            ++ e.edges (v.sceneId 1 (done.length + 1)) current } := by
  rw [Graph.mk.injEq]
  refine ⟨?_, ?_⟩
  · rw [nodes_outline_append_singleton, nodes_outline_append_singleton, sceneNodes, sceneNodes,
      inTurn_append_singleton, List.append_assoc, List.cons_append]
  · rw [edges_outline_append_singleton, edges_outline_append_singleton, sceneEdges, sceneEdges,
      inTurn_append_singleton, List.append_assoc]

/-- What numbered elements give is given by one of them. -/
theorem mem_flatMap_zipIdx {α β : Type} {xs : List α} {f : Nat → α → List β} {y : β} :
    (y ∈ (xs.zipIdx 1).flatMap fun (x, number) => f number x) ↔
      ∃ i x, xs[i]? = some x ∧ y ∈ f (i + 1) x := by
  rw [List.mem_flatMap]
  constructor
  · rintro ⟨⟨x, number⟩, hmem, hy⟩
    obtain ⟨hle, hget⟩ := List.mk_mem_zipIdx_iff_le_and_getElem?_sub.mp hmem
    exact ⟨number - 1, x, hget, by rwa [Nat.sub_add_cancel hle]⟩
  · rintro ⟨i, x, hget, hy⟩
    exact ⟨(x, i + 1), List.mk_mem_zipIdx_iff_le_and_getElem?_sub.mpr ⟨by omega, hget⟩, hy⟩

/-- What is sought in numbered elements and given by one of them only is found there. -/
theorem filter_flatMap_zipIdx {α β : Type} {f : Nat → α → List β} {p : β → Bool} {x : α} {i : Nat} :
    ∀ {xs : List α}, xs[i]? = some x →
      (∀ j y, j ≠ i → xs[j]? = some y → (f (j + 1) y).filter p = []) →
      ((xs.zipIdx 1).flatMap fun (x, number) => f number x).filter p = (f (i + 1) x).filter p := by
  intro xs
  induction xs using List.reverseRecOn with
  | nil => intro h; simp at h
  | append_singleton xs y ih =>
    intro h hother
    rw [flatMap_zipIdx_append_singleton, List.filter_append]
    by_cases hlt : i < xs.length
    · rw [List.getElem?_append_left hlt] at h
      rw [hother xs.length y (by omega) (by simp), List.append_nil]
      refine ih h fun j z hj hz => hother j z hj ?_
      rwa [List.getElem?_append_left (List.getElem?_eq_some_iff.mp hz).1]
    · -- the last element is the one that is asked for
      obtain rfl : i = xs.length := by
        have := (List.getElem?_eq_some_iff.mp h).1
        simp at this
        omega
      obtain rfl : y = x := by simpa using h
      rw [List.append_left_eq_self, List.filter_eq_nil_iff]
      intro z hz
      obtain ⟨j, w, hw, hmem⟩ := mem_flatMap_zipIdx.mp hz
      have hj := (List.getElem?_eq_some_iff.mp hw).1
      have hnone := hother j w (by omega) (by rwa [List.getElem?_append_left hj])
      exact List.filter_eq_nil_iff.mp hnone z hmem

theorem mem_nodes_outline {scenes : List (List (Event Character))} {n : Node} :
    n ∈ (v.outline scenes).nodes ↔
      ∃ i events, scenes[i]? = some events ∧ n ∈ v.sceneNodes (i + 1) events :=
  mem_flatMap_zipIdx

theorem mem_edges_outline {scenes : List (List (Event Character))} {e : Edge} :
    e ∈ (v.outline scenes).edges ↔
      ∃ i events, scenes[i]? = some events ∧ e ∈ v.sceneEdges (i + 1) events :=
  mem_flatMap_zipIdx

end Vocabulary

/-! ## Names and numbers -/

namespace Event

variable {scene : String} {events past rest xs ys : List (Event Character)} {text : String}
  {n : Node} {name : String} {k : Nat}

/-- No one on stage has a name that is the number of a direction. -/
def Unclashed (events : List (Event Character)) : Prop :=
  ∀ name ∈ names events, ∀ k, 1 ≤ k → k ≤ directionCount events → name ≠ toString k

theorem unclashed_nil : Unclashed [] := by
  intro name h
  simp at h

theorem Unclashed.of_append (h : Unclashed (xs ++ ys)) : Unclashed xs := by
  intro name hname k h1 hk
  exact h name (by simp [hname]) k h1 (by rw [directionCount_append]; omega)

/-- One more direction clashes with those on stage who have its number for a name. -/
theorem unclashed_direction :
    Unclashed (xs ++ [.direction text]) ↔
      Unclashed xs ∧ toString (directionCount xs + 1) ∉ names xs := by
  have hc : directionCount (xs ++ [.direction text]) = directionCount xs + 1 := by
    simp [isDirection]
  have hn : names (xs ++ [.direction text]) = names xs := by simp [who?]
  constructor
  · intro h
    refine ⟨h.of_append, fun hmem => ?_⟩
    exact h _ (by rw [hn]; exact hmem) (directionCount xs + 1) (by omega) (by omega) rfl
  · rintro ⟨h, hmem⟩ name hname k h1 hk rfl
    rw [hn] at hname
    rw [hc] at hk
    -- the new number, or one of those there were
    by_cases hlast : k = directionCount xs + 1
    · exact hmem (hlast ▸ hname)
    · exact h _ hname k h1 (by omega) rfl

/-- One more mention clashes with the directions so far. -/
theorem unclashed_mention {e : Event Character} {c : Character} (he : e.who? = some c) :
    Unclashed (xs ++ [e]) ↔
      Unclashed xs ∧ ∀ k, 1 ≤ k → k ≤ directionCount xs → c.name ≠ toString k := by
  have hc : directionCount (xs ++ [e]) = directionCount xs := by
    cases e <;> simp [who?, isDirection] at he ⊢
  have hn : names (xs ++ [e]) = names xs ++ [c.name] := by
    simp [he]
  constructor
  · intro h
    exact ⟨h.of_append, fun k h1 hk => h _ (by simp [hn]) k h1 (by omega)⟩
  · rintro ⟨h, hlast⟩ name hname k h1 hk
    rw [hc] at hk
    rw [hn, List.mem_append, List.mem_singleton] at hname
    rcases hname with hname | hname
    · exact h name hname k h1 hk
    · exact hname ▸ hlast k h1 hk

/-! ## The nodes in a scene -/

theorem eq_of_mem_entrance {c : Character} (h : n ∈ entrance scene past c) :
    n = Node.ofCharacter scene c := by
  unfold entrance at h
  split at h
  · simp at h
  · simpa using h

/-- A node in a scene is that of a direction or of someone on stage. -/
theorem mem_nodes_cases (h : n ∈ inTurn (nodes scene) events) :
    (∃ past text rest, events = past ++ .direction text :: rest ∧
      n = Node.ofDirection scene (directionCount past + 1) text) ∨
    ∃ c ∈ onstage events, n = Node.ofCharacter scene c := by
  obtain ⟨past, e, rest, hevents, hn⟩ := mem_inTurn.mp h
  have hmem : e ∈ events := by simp [hevents]
  cases e with
  | direction text => exact Or.inl ⟨past, text, rest, hevents, by simpa [nodes] using hn⟩
  | speech c =>
    exact Or.inr ⟨c, List.mem_filterMap.mpr ⟨_, hmem, rfl⟩, eq_of_mem_entrance hn⟩
  | address c text tags =>
    exact Or.inr ⟨c, List.mem_filterMap.mpr ⟨_, hmem, rfl⟩, eq_of_mem_entrance hn⟩

/-- A number up to that of the latest direction is the number of a direction. -/
theorem exists_direction (h1 : 1 ≤ k) (hk : k ≤ directionCount events) :
    ∃ past text rest, events = past ++ .direction text :: rest ∧ directionCount past + 1 = k := by
  induction events using List.reverseRecOn with
  | nil => simp at hk; omega
  | append_singleton xs e ih =>
    by_cases hlt : k ≤ directionCount xs
    · obtain ⟨past, text, rest, hxs, hpast⟩ := ih hlt
      exact ⟨past, text, rest ++ [e], by simp [hxs], hpast⟩
    · cases e with
      | direction text =>
        have hc : directionCount (xs ++ [.direction text]) = directionCount xs + 1 := by
          simp [isDirection]
        exact ⟨xs, text, [], rfl, by omega⟩
      | speech c => exact absurd (by simpa [isDirection] using hk) hlt
      | address c text tags => exact absurd (by simpa [isDirection] using hk) hlt

theorem directionCount_lt (h : events = past ++ .direction text :: rest) :
    directionCount past < directionCount events := by
  simp [h, isDirection]

theorem ofDirection_mem (scene : String) (h : events = past ++ .direction text :: rest) :
    Node.ofDirection scene (directionCount past + 1) text ∈ inTurn (nodes scene) events :=
  mem_inTurn.mpr ⟨past, _, rest, h, by simp [nodes]⟩

/-- Whoever is on stage has a node: the one that the first mention has added. -/
theorem exists_ofCharacter (scene : String) (h : name ∈ names events) : ∃ c ∈ onstage events,
    c.name = name ∧ Node.ofCharacter scene c ∈ inTurn (nodes scene) events := by
  induction events using List.reverseRecOn with
  | nil => simp at h
  | append_singleton xs e ih =>
    rw [inTurn_append_singleton]
    -- the node is there since the first mention
    by_cases hold : name ∈ names xs
    · obtain ⟨c, hc, hname, hmem⟩ := ih hold
      exact ⟨c, by simp [hc], hname, List.mem_append_left _ hmem⟩
    · rw [names_append, List.mem_append] at h
      obtain ⟨c, hc, hname⟩ := List.mem_map.mp (h.resolve_left hold)
      refine ⟨c, by rw [onstage_append]; exact List.mem_append_right _ hc, hname,
        List.mem_append_right _ ?_⟩
      cases e with
      | direction text => simp [who?] at hc
      | speech d =>
        obtain rfl : c = d := by simpa [who?] using hc
        simp [nodes, entrance, hname, hold]
      | address d text tags =>
        obtain rfl : c = d := by simpa [who?] using hc
        simp [nodes, entrance, hname, hold]

end Event

/-! ## Looking up ids -/

namespace Event

variable {scene name : String} {events : List (Event Character)} {n : Node}

/-- A name that is neither on stage nor the number of a direction has no node. -/
theorem id_ne_of_new (hname : name ∉ names events)
    (hk : ∀ k, 1 ≤ k → k ≤ directionCount events → name ≠ toString k)
    (h : n ∈ inTurn (nodes scene) events) : n.id ≠ localId scene name := by
  intro hid
  rcases mem_nodes_cases h with ⟨past, text, rest, hevents, rfl⟩ | ⟨c, hc, rfl⟩
  · exact hk _ (by omega) (directionCount_lt hevents) (localId_right_inj.mp hid).symm
  · exact hname (localId_right_inj.mp hid ▸ List.mem_map_of_mem hc)

/-- A node in a scene has an id in the scene, and the scene for a parent. -/
theorem id_of_mem_nodes (h : n ∈ inTurn (nodes scene) events) :
    (∃ name, n.id = localId scene name) ∧ n.parent = some scene := by
  rcases mem_nodes_cases h with ⟨past, text, rest, -, rfl⟩ | ⟨c, -, rfl⟩
  · exact ⟨⟨_, rfl⟩, rfl⟩
  · exact ⟨⟨_, rfl⟩, rfl⟩

end Event

namespace Vocabulary

open Event

variable {v : Vocabulary} {scenes done : List (List (Event Character))}
  {current : List (Event Character)} {n : Node} {name : String} {i k : Nat}

/-- An id in a scene belongs to a node in that scene. -/
theorem mem_nodes_of_id (hn : n ∈ (v.outline scenes).nodes)
    (hid : n.id = localId (v.sceneId 1 (i + 1)) name) :
    ∃ events, scenes[i]? = some events ∧ n ∈ inTurn (nodes (v.sceneId 1 (i + 1))) events := by
  obtain ⟨j, events, hget, hmem⟩ := mem_nodes_outline.mp hn
  rcases List.mem_cons.mp hmem with rfl | hmem
  · exact absurd hid.symm localId_ne_sceneId
  · obtain ⟨⟨other, hother⟩, -⟩ := id_of_mem_nodes hmem
    obtain ⟨⟨-, hj⟩, -⟩ := localId_inj.mp (hother.symm.trans hid)
    obtain rfl : j = i := by omega
    exact ⟨events, hget, hmem⟩

theorem mem_current_of_id (hn : n ∈ (v.outline (done ++ [current])).nodes)
    (hid : n.id = localId (v.sceneId 1 (done.length + 1)) name) :
    n ∈ inTurn (nodes (v.sceneId 1 (done.length + 1))) current := by
  obtain ⟨events, hget, hmem⟩ := mem_nodes_of_id hn hid
  obtain rfl : current = events := by simpa using hget
  exact hmem

/-- A node in the latest scene is found by its id, up to nodes of the same id in that scene. -/
theorem node?_current (hn : n ∈ inTurn (nodes (v.sceneId 1 (done.length + 1))) current) :
    ∃ m ∈ inTurn (nodes (v.sceneId 1 (done.length + 1))) current,
      (v.outline (done ++ [current])).node? n.id = some m ∧ m.id = n.id := by
  have hmem : n ∈ (v.outline (done ++ [current])).nodes := by
    rw [nodes_outline_append_singleton]
    exact List.mem_append_right _ (List.mem_cons_of_mem _ hn)
  obtain ⟨m, hm⟩ := Graph.exists_node? hmem
  obtain ⟨hm', hid⟩ := Graph.mem_of_node? hm
  obtain ⟨⟨name, hname⟩, -⟩ := id_of_mem_nodes hn
  exact ⟨m, mem_current_of_id hm' (hid.trans hname), hm, hid⟩

/-- A name on stage stands for a character. -/
theorem kind_of_mem_names (v : Vocabulary) (done : List (List (Event Character)))
    (hu : Unclashed current) (h : name ∈ names current) :
    ∃ m, (v.outline (done ++ [current])).node? (localId (v.sceneId 1 (done.length + 1)) name)
      = some m ∧ m.kind = .character := by
  obtain ⟨c, -, rfl, hc⟩ := exists_ofCharacter (v.sceneId 1 (done.length + 1)) h
  obtain ⟨m, hm, hfind, hid⟩ := node?_current hc
  refine ⟨m, hfind, ?_⟩
  rcases mem_nodes_cases hm with ⟨past, text, rest, hevents, rfl⟩ | ⟨d, -, rfl⟩
  · -- the number of a direction would be a name on stage
    exact absurd (localId_right_inj.mp hid).symm
      (hu c.name h _ (by omega) (directionCount_lt hevents))
  · rfl

/-- The number of a direction stands for it. -/
theorem kind_of_le_directionCount (v : Vocabulary) (done : List (List (Event Character)))
    (hu : Unclashed current) (h1 : 1 ≤ k) (hk : k ≤ directionCount current) :
    ∃ m, (v.outline (done ++ [current])).node?
      (localId (v.sceneId 1 (done.length + 1)) (toString k)) = some m ∧ m.kind = .direction := by
  obtain ⟨past, text, rest, hevents, rfl⟩ := exists_direction h1 hk
  have hd := ofDirection_mem (v.sceneId 1 (done.length + 1)) hevents
  obtain ⟨m, hm, hfind, hid⟩ := node?_current hd
  refine ⟨m, hfind, ?_⟩
  rcases mem_nodes_cases hm with ⟨past', text', rest', -, rfl⟩ | ⟨c, hc, rfl⟩
  · rfl
  · exact absurd (localId_right_inj.mp hid)
      (hu c.name (List.mem_map_of_mem hc) _ (by omega) hk)

/-- What is neither on stage nor the number of a direction is free. -/
theorem node?_eq_none_of_new (v : Vocabulary) (done : List (List (Event Character)))
    (hn : name ∉ names current)
    (hk : ∀ k, 1 ≤ k → k ≤ directionCount current → name ≠ toString k) :
    (v.outline (done ++ [current])).node? (localId (v.sceneId 1 (done.length + 1)) name) = none :=
  Graph.node?_eq_none_iff.mpr fun _ hm hid => id_ne_of_new hn hk (mem_current_of_id hm hid) hid

/-- The id of the next scene is free. -/
theorem node?_next_scene : (v.outline done).node? (v.sceneId 1 (done.length + 1)) = none := by
  refine Graph.node?_eq_none_iff.mpr fun m hm hid => ?_
  obtain ⟨j, events, hget, hmem⟩ := mem_nodes_outline.mp hm
  rcases List.mem_cons.mp hmem with rfl | hmem
  · have hlt : j < done.length := (List.getElem?_eq_some_iff.mp hget).1
    have := (sceneId_inj.mp hid).2
    omega
  · obtain ⟨⟨name, hname⟩, -⟩ := id_of_mem_nodes hmem
    exact localId_ne_sceneId (hname.symm.trans hid)

end Vocabulary

end Dramaturgy
