import Dramaturgy.Graph

/-!
# Adding to a graph

An id is looked up among the nodes in their order. Adding a node has three outcomes, which go by
what the look-up finds: nothing, a node of the same kind, or one of another kind. Adding an edge
succeeds when both its ends are found.
-/

namespace Dramaturgy.Graph

variable {g : Graph} {n m : Node} {id : String}

theorem node?_eq_none_iff : g.node? id = none ↔ ∀ n ∈ g.nodes, n.id ≠ id := by
  simp [node?]

theorem mem_of_node? (h : g.node? id = some n) : n ∈ g.nodes ∧ n.id = id :=
  ⟨List.mem_of_find?_eq_some h, by simpa using List.find?_some h⟩

theorem exists_node? (h : n ∈ g.nodes) : ∃ m, g.node? n.id = some m := by
  cases hm : g.node? n.id with
  | some m => exact ⟨m, rfl⟩
  | none => exact absurd rfl (node?_eq_none_iff.mp hm n h)

theorem contains_of_mem (h : n ∈ g.nodes) : g.contains n.id = true := by
  obtain ⟨m, hm⟩ := exists_node? h
  rw [contains, hm, Option.isSome_some]

theorem addNode_of_none (h : g.node? n.id = none) :
    g.addNode n = .ok (true, { g with nodes := g.nodes ++ [n] }) := by
  rw [addNode, h]

theorem addNode_of_same_kind (h : g.node? n.id = some m) (hk : m.kind = n.kind) :
    g.addNode n = .ok (false, g) := by
  rw [addNode, h]
  exact if_pos hk

theorem addNode_of_other_kind (h : g.node? n.id = some m) (hk : m.kind ≠ n.kind) :
    g.addNode n = .error (.identifierCollision n.id) := by
  rw [addNode, h]
  exact if_neg hk

/-- One node more is found if nothing was found under its id before. -/
theorem node?_append (g : Graph) (n : Node) (id : String) :
    ({ g with nodes := g.nodes ++ [n] } : Graph).node? id
      = (g.node? id).or (if n.id = id then some n else none) := by
  simp [node?, List.find?_append, List.find?_singleton]

/-- A node of the given kind is found under an id. -/
def Holds (g : Graph) (kind : NodeKind) (id : String) : Prop :=
  ∃ n, g.node? id = some n ∧ n.kind = kind

/-- A node is found under an id, and it is contained by another one. -/
def Within (g : Graph) (id parent : String) : Prop :=
  ∃ n, g.node? id = some n ∧ n.parent = some parent

theorem not_holds_of_none {kind : NodeKind} (h : g.node? id = none) : ¬g.Holds kind id := by
  rintro ⟨n, hn, -⟩
  rw [h] at hn
  cases hn

theorem Holds.kind_inj {kind other : NodeKind} (h : g.Holds kind id) (h' : g.Holds other id) :
    kind = other := by
  obtain ⟨n, hn, rfl⟩ := h
  obtain ⟨m, hm, rfl⟩ := h'
  rw [hn] at hm
  cases hm
  rfl

theorem holds_append {kind : NodeKind} (hnew : g.node? n.id = none) :
    ({ g with nodes := g.nodes ++ [n] } : Graph).Holds kind id ↔
      g.Holds kind id ∨ n.kind = kind ∧ n.id = id := by
  unfold Holds
  rw [node?_append]
  by_cases hid : n.id = id
  · subst hid
    simp [hnew]
  · simp [hid]

theorem addEdge_of_contains {e : Edge} (hs : g.contains e.source = true)
    (ht : g.contains e.target = true) :
    g.addEdge e = .ok { g with edges := g.edges ++ [e] } := by
  rw [addEdge, if_neg (by simp [hs]), if_neg (by simp [ht])]

/-- An edge is added if both its ends are there, and otherwise it dangles. -/
theorem addEdge_cases (g : Graph) (e : Edge) :
    (g.contains e.source = true ∧ g.contains e.target = true ∧
      g.addEdge e = .ok { g with edges := g.edges ++ [e] }) ∨
    ∃ endpoint, g.addEdge e = .error (.danglingEdge endpoint) := by
  unfold addEdge
  split
  · exact Or.inr ⟨_, rfl⟩
  · next hs =>
    split
    · exact Or.inr ⟨_, rfl⟩
    · next ht => exact Or.inl ⟨by simpa using hs, by simpa using ht, rfl⟩

end Dramaturgy.Graph
