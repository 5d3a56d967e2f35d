import Dramaturgy.Proofs.Action
import Dramaturgy.Proofs.Containment

/-!
# A graph as a ledger

A graph is asked for nodes and edges in any order, and some of the calls fail. It is a ledger of the
calls that succeed: what has been put down stays where it is, and nothing else is ever put down.
`Graph.ledger_built` says all that can be relied on then.

What one call does is in two lemmas. `add_eq` says what it puts down, and `node?_add` what is found
under an id afterwards. A run of calls follows by induction: under an id there is the first node that
has ever been asked for under it (`node?_built`), whether the calls after that one fail or are passed
over.
-/

namespace Dramaturgy

/-! ## What a call puts down -/

namespace Addition

/-- The node that a call asks for. -/
def node? : Addition → Option Node
  | .node n => some n
  | .edge _ => none

/-- The node that a graph takes from a call: one of which it says that it is new. -/
def newNodes (g : Graph) : Addition → List Node
  | .node n =>
    match g.addNode n with
    | .ok (true, _) => [n]
    | _ => []
  | .edge _ => []

/-- The edge that a graph takes from a call. -/
def newEdges (g : Graph) : Addition → List Edge
  | .node _ => []
  | .edge e =>
    match g.addEdge e with
    | .ok _ => [e]
    | .error _ => []

end Addition

namespace Graph

variable {g : Graph} {calls : List Addition} {id : String}

/-- The nodes that are listed in a place: those with the given parent, or the roots. -/
def listed (g : Graph) : Option String → List Node
  | none => g.roots
  | some parent => g.children parent

/-- What can be relied on when some calls have made a graph. -/
structure Ledger (calls : List Addition) (g : Graph) : Prop where
  /-- The nodes are those that were taken, in the order of the calls. -/
  nodes : g.nodes = inTurn (fun before call => call.newNodes (built before)) calls
  /-- The edges are those that were taken, in the order of the calls. -/
  edges : g.edges = inTurn (fun before call => call.newEdges (built before)) calls
  /-- No two nodes have one id. -/
  distinct : (g.nodes.map (·.id)).Nodup
  /-- Under an id there is the first node that was asked for under it. -/
  first : ∀ id, g.node? id = (calls.filterMap (·.node?)).find? (·.id == id)
  /-- Whatever is asked for later, all that is there stays as it is. -/
  kept : ∀ later, g.Grows (built (calls ++ later)) ∧
    ∀ id n, g.node? id = some n → (built (calls ++ later)).node? id = some n
  /-- A node is new if its id is. If the id is there, what counts is the kind of its node. -/
  addNode : ∀ n,
    ((∃ grown, g.addNode n = .ok (true, grown)) ↔ g.node? n.id = none) ∧
    ((∃ grown, g.addNode n = .ok (false, grown)) ↔ g.Holds n.kind n.id) ∧
    ((∃ fault, g.addNode n = .error fault) ↔ ∃ kind, kind ≠ n.kind ∧ g.Holds kind n.id) ∧
    ∀ fault, g.addNode n = .error fault → fault = .identifierCollision n.id
  /-- An edge is taken if both its ends are there. The source is the first to be missed. -/
  addEdge : ∀ e,
    ((∃ grown, g.addEdge e = .ok grown) ↔ g.contains e.source ∧ g.contains e.target) ∧
    (¬g.contains e.source → g.addEdge e = .error (.danglingEdge e.source)) ∧
    (g.contains e.source → ¬g.contains e.target →
      g.addEdge e = .error (.danglingEdge e.target))
  /-- Both ends of each edge are there. -/
  closed : ∀ e ∈ g.edges, g.contains e.source ∧ g.contains e.target
  /-- A call from which nothing is taken changes nothing. -/
  unchanged : ∀ call, call.newNodes g = [] → call.newEdges g = [] → g.add call = g
  /-- Each node is listed in just one place: as a root, or among the children of one parent. -/
  listed : ∀ n ∈ g.nodes, ∃! place, n ∈ g.listed place
  /-- In each place the nodes are listed in the order in which they were added. -/
  inOrder : ∀ place, (g.listed place).Sublist g.nodes

/-! ## One call -/

/-- The three answers to a node. -/
theorem addNode_cases (g : Graph) (n : Node) :
    (g.node? n.id = none ∧ g.addNode n = .ok (true, { g with nodes := g.nodes ++ [n] })) ∨
    (g.Holds n.kind n.id ∧ g.addNode n = .ok (false, g)) ∨
    (∃ kind, kind ≠ n.kind ∧ g.Holds kind n.id) ∧
      g.addNode n = .error (.identifierCollision n.id) := by
  cases hm : g.node? n.id with
  | none => exact .inl ⟨rfl, addNode_of_none hm⟩
  | some m =>
    by_cases hk : m.kind = n.kind
    · exact .inr (.inl ⟨⟨m, hm, hk⟩, addNode_of_same_kind hm hk⟩)
    · exact .inr (.inr ⟨⟨m.kind, hk, m, hm, rfl⟩, addNode_of_other_kind hm hk⟩)

theorem answer_addNode (g : Graph) (n : Node) :
    ((∃ grown, g.addNode n = .ok (true, grown)) ↔ g.node? n.id = none) ∧
    ((∃ grown, g.addNode n = .ok (false, grown)) ↔ g.Holds n.kind n.id) ∧
    ((∃ fault, g.addNode n = .error fault) ↔ ∃ kind, kind ≠ n.kind ∧ g.Holds kind n.id) ∧
    ∀ fault, g.addNode n = .error fault → fault = .identifierCollision n.id := by
  rcases g.addNode_cases n with ⟨hnone, h⟩ | ⟨hheld, h⟩ | ⟨⟨kind, hother, hheld⟩, h⟩
  · rw [h]
    refine ⟨iff_of_true ⟨_, rfl⟩ hnone, iff_of_false nofun (not_holds_of_none hnone),
      iff_of_false nofun ?_, nofun⟩
    rintro ⟨kind, -, hk⟩
    exact not_holds_of_none hnone hk
  · rw [h]
    refine ⟨iff_of_false nofun fun hnone => not_holds_of_none hnone hheld,
      iff_of_true ⟨_, rfl⟩ hheld, iff_of_false nofun ?_, nofun⟩
    rintro ⟨kind, hother, hk⟩
    exact hother (hk.kind_inj hheld)
  · rw [h]
    refine ⟨iff_of_false nofun fun hnone => not_holds_of_none hnone hheld,
      iff_of_false nofun fun hsame => hother (hheld.kind_inj hsame),
      iff_of_true ⟨_, rfl⟩ ⟨kind, hother, hheld⟩, ?_⟩
    rintro fault ⟨⟩
    rfl

theorem addEdge_of_not_source {e : Edge} (hs : ¬g.contains e.source) :
    g.addEdge e = .error (.danglingEdge e.source) := by
  rw [addEdge, if_pos (by simpa using hs)]

theorem addEdge_of_not_target {e : Edge} (hs : g.contains e.source) (ht : ¬g.contains e.target) :
    g.addEdge e = .error (.danglingEdge e.target) := by
  rw [addEdge, if_neg (by simpa using hs), if_pos (by simpa using ht)]

theorem answer_addEdge (g : Graph) (e : Edge) :
    ((∃ grown, g.addEdge e = .ok grown) ↔ g.contains e.source ∧ g.contains e.target) ∧
    (¬g.contains e.source → g.addEdge e = .error (.danglingEdge e.source)) ∧
    (g.contains e.source → ¬g.contains e.target →
      g.addEdge e = .error (.danglingEdge e.target)) := by
  refine ⟨⟨fun ⟨grown, hok⟩ => ?_, fun ⟨hs, ht⟩ => ⟨_, addEdge_of_contains hs ht⟩⟩,
    addEdge_of_not_source, addEdge_of_not_target⟩
  rcases g.addEdge_cases e with ⟨hs, ht, -⟩ | ⟨endpoint, herr⟩
  · exact ⟨hs, ht⟩
  · rw [herr] at hok
    cases hok

/-- What a call puts down comes at the end, and all else stays. -/
theorem add_eq (g : Graph) (call : Addition) : g.add call =
    { nodes := g.nodes ++ call.newNodes g, edges := g.edges ++ call.newEdges g } := by
  cases call with
  | node n =>
    rcases g.addNode_cases n with ⟨-, h⟩ | ⟨-, h⟩ | ⟨-, h⟩ <;>
      simp [add, Addition.newNodes, Addition.newEdges, h]
  | edge e =>
    rcases g.addEdge_cases e with ⟨-, -, h⟩ | ⟨endpoint, h⟩ <;>
      simp [add, Addition.newNodes, Addition.newEdges, h]

/-- A call for a node is heard only if nothing is found under its id yet. -/
theorem node?_add (g : Graph) (call : Addition) (id : String) :
    (g.add call).node? id = (g.node? id).or (call.node?.filter (·.id == id)) := by
  cases call with
  | node n =>
    cases hn : g.node? n.id with
    | none =>
      rw [add, addNode_of_none hn]
      simp [node?_append, Addition.node?, Option.filter]
    | some m =>
      have hsame : g.add (.node n) = g := by
        rcases g.addNode_cases n with ⟨hnone, -⟩ | ⟨-, h⟩ | ⟨-, h⟩
        · simp [hn] at hnone
        · rw [add, h]
        · rw [add, h]
      rw [hsame]
      by_cases hid : n.id = id
      · subst hid
        rw [hn, Option.some_or]
      · simp [Addition.node?, Option.filter, hid]
  | edge e =>
    have hnodes : (g.add (.edge e)).node? id = g.node? id := by
      rw [add_eq, node?, node?]
      simp [Addition.newNodes]
    rw [hnodes, Addition.node?, Option.filter_none, Option.or_none]

theorem contains_add (h : g.contains id) (call : Addition) : (g.add call).contains id := by
  obtain ⟨n, hn⟩ := Option.isSome_iff_exists.mp h
  rw [contains, node?_add, hn, Option.some_or, Option.isSome_some]

theorem contains_of_mem_newEdges {call : Addition} {e : Edge} (h : e ∈ call.newEdges g) :
    g.contains e.source ∧ g.contains e.target := by
  cases call with
  | node n => cases h
  | edge e' =>
    rcases g.addEdge_cases e' with ⟨hs, ht, hok⟩ | ⟨endpoint, herr⟩
    · rw [Addition.newEdges, hok, List.mem_singleton] at h
      exact h ▸ ⟨hs, ht⟩
    · rw [Addition.newEdges, herr] at h
      cases h

/-! ## A run of calls -/

theorem built_eq (calls : List Addition) : built calls =
    { nodes := inTurn (fun before call => call.newNodes (built before)) calls
      edges := inTurn (fun before call => call.newEdges (built before)) calls } := by
  induction calls using List.reverseRecOn with
  | nil => rfl
  | append_singleton calls call ih =>
    rw [built_append_singleton, add_eq, inTurn_append_singleton, inTurn_append_singleton]
    congr 2
    · exact congrArg (·.nodes) ih
    · exact congrArg (·.edges) ih

/-- Under an id there is the first node that any call asks for under it. -/
theorem node?_built (calls : List Addition) (id : String) :
    (built calls).node? id = (calls.filterMap (·.node?)).find? (·.id == id) := by
  induction calls using List.reverseRecOn with
  | nil => rfl
  | append_singleton calls call ih =>
    rw [built_append_singleton, node?_add, ih, List.filterMap_append, List.find?_append]
    cases call with
    | node n => simp [Addition.node?, Option.filter, List.find?_singleton]
    | edge e => simp [Addition.node?]

theorem grows_built_append (calls later : List Addition) :
    (built calls).Grows (built (calls ++ later)) := by
  induction later using List.reverseRecOn with
  | nil => rw [List.append_nil]; exact .refl _
  | append_singleton later call ih =>
    rw [← List.append_assoc, built_append_singleton]
    refine ih.trans ?_
    rw [add_eq]
    exact ⟨List.prefix_append _ _, List.prefix_append _ _⟩

theorem closed_built (calls : List Addition) : ∀ e ∈ (built calls).edges,
    (built calls).contains e.source ∧ (built calls).contains e.target := by
  induction calls using List.reverseRecOn with
  | nil => exact nofun
  | append_singleton calls call ih =>
    intro e he
    rw [built_append_singleton, add_eq] at he
    have hends : (built calls).contains e.source ∧ (built calls).contains e.target := by
      rcases List.mem_append.mp he with hold | hnew
      · exact ih e hold
      · exact contains_of_mem_newEdges hnew
    rw [built_append_singleton]
    exact ⟨contains_add hends.1 call, contains_add hends.2 call⟩

/-! ## What can be relied on -/

theorem mem_listed {n : Node} {place : Option String} :
    n ∈ g.listed place ↔ n ∈ g.nodes ∧ n.parent = place := by
  cases place <;> simp [Graph.listed, roots, children]

/-- **What can be relied on in a graph that any calls have made.** -/
theorem ledger_built (calls : List Addition) : Ledger calls (built calls) where
  nodes := congrArg (·.nodes) (built_eq calls)
  edges := congrArg (·.edges) (built_eq calls)
  distinct := nodup_ids_built calls
  first := node?_built calls
  kept later := by
    refine ⟨grows_built_append calls later, fun id n hn => ?_⟩
    rw [node?_built] at hn
    rw [node?_built, List.filterMap_append, List.find?_append, hn, Option.some_or]
  addNode := answer_addNode (built calls)
  addEdge := answer_addEdge (built calls)
  closed := closed_built calls
  unchanged call hnodes hedges := by
    rw [add_eq, hnodes, hedges, List.append_nil, List.append_nil]
  listed n hn := ⟨n.parent, mem_listed.mpr ⟨hn, rfl⟩, fun place h => (mem_listed.mp h).2.symm⟩
  inOrder place := by
    cases place <;> exact List.filter_sublist

end Graph

end Dramaturgy
