import Dramaturgy.Cast
import Dramaturgy.Graph.Forest
import Dramaturgy.Proofs.WellFormed
import Mathlib.Data.List.Flatten
import Mathlib.Data.List.Perm.Subperm
import Mathlib.Logic.Relation

/-!
# What hangs below a root

A graph takes nodes with any parents: parents that do not exist, nodes that contain themselves, nodes
that contain one another in a circle. `Graph.Rooted` are the nodes from which going up, from parent to
parent, leads to a node without a parent. Ids being distinct, a node has one parent, so that

* no chain of such nodes comes back to where it was (`not_circular`), and going down from a root comes
  to an end within as many steps as there are nodes (`endsWithin_of_mem_roots`);
* the trees of a graph hold these nodes, all of them and each once (`mem_forest_iff`, `nodup_forest`).

In the graph of a play and in that of a cast all nodes are such nodes.
-/

namespace Dramaturgy

open Relation

/-! ## Graphs of any making -/

/-- A call that adds to a graph. -/
inductive Addition where
  | node (n : Node)
  | edge (e : Edge)
deriving DecidableEq, Repr

namespace Graph

/-- A graph after a call. A call that fails changes nothing. -/
def add (g : Graph) : Addition → Graph
  | .node n =>
    match g.addNode n with
    | .ok (_, grown) => grown
    | .error _ => g
  | .edge e =>
    match g.addEdge e with
    | .ok grown => grown
    | .error _ => g

/-- The graph that some calls make. -/
def built (calls : List Addition) : Graph :=
  calls.foldl add {}

variable {g grown : Graph} {n m p q : Node} {calls : List Addition}

/-- A call adds a node whose id is free, or it leaves the nodes as they are. -/
theorem nodes_add (g : Graph) (call : Addition) : (g.add call).nodes = g.nodes ∨
    ∃ n, call = .node n ∧ g.node? n.id = none ∧ (g.add call).nodes = g.nodes ++ [n] := by
  cases call with
  | node n =>
    cases hn : g.node? n.id with
    | none =>
      refine Or.inr ⟨n, rfl, hn, ?_⟩
      rw [add, addNode_of_none hn]
    | some m =>
      refine Or.inl ?_
      by_cases hk : m.kind = n.kind
      · rw [add, addNode_of_same_kind hn hk]
      · rw [add, addNode_of_other_kind hn hk]
  | edge e =>
    refine Or.inl ?_
    rcases addEdge_cases g e with ⟨-, -, h⟩ | ⟨endpoint, h⟩
    · rw [add, h]
    · rw [add, h]

theorem built_append_singleton (calls : List Addition) (call : Addition) :
    built (calls ++ [call]) = (built calls).add call := by
  simp [built]

theorem nodup_ids_built (calls : List Addition) : ((built calls).nodes.map (·.id)).Nodup := by
  induction calls using List.reverseRecOn with
  | nil => exact List.nodup_nil
  | append_singleton calls call ih =>
    rw [built_append_singleton]
    rcases nodes_add (built calls) call with h | ⟨n, -, hn, h⟩
    · rwa [h]
    · rw [h, List.map_append, List.nodup_append]
      refine ⟨ih, List.nodup_singleton _, fun a ha b hb hab => ?_⟩
      obtain ⟨m, hm, rfl⟩ := List.mem_map.mp ha
      obtain rfl : b = n.id := by simpa using hb
      exact node?_eq_none_iff.mp hn m hm hab

theorem mem_calls_of_mem_built (h : n ∈ (built calls).nodes) : .node n ∈ calls := by
  induction calls using List.reverseRecOn with
  | nil => exact absurd h List.not_mem_nil
  | append_singleton calls call ih =>
    rw [built_append_singleton] at h
    rcases nodes_add (built calls) call with heq | ⟨m, rfl, -, heq⟩
    · rw [heq] at h
      exact List.mem_append_left _ (ih h)
    · rw [heq, List.mem_append, List.mem_singleton] at h
      rcases h with h | rfl
      · exact List.mem_append_left _ (ih h)
      · simp

theorem addNodes_eq_ok : ∀ {nodes : List Node} {g : Graph}, (g.addNodes nodes).outcome = .ok grown →
    grown = (nodes.map Addition.node).foldl add g
  | [], g, h => by
    cases h
    rfl
  | n :: nodes, g, h => by
    unfold addNodes Report.andThen at h
    cases hn : g.addNode n with
    | error fault =>
      rw [hn] at h
      cases h
    | ok added =>
      rw [hn] at h
      rw [List.map_cons, List.foldl_cons, add, hn]
      exact addNodes_eq_ok h

theorem built_of_build {nodes : List Node} (h : (build nodes []).outcome = .ok grown) :
    grown = built (nodes.map .node) := by
  unfold build Report.andThen at h
  cases hn : (({} : Graph).addNodes nodes).outcome with
  | error fault =>
    rw [hn] at h
    cases h
  | ok g =>
    rw [hn] at h
    cases h
    exact addNodes_eq_ok hn

/-! ## Going up -/

/-- The parent of a node is there. -/
def ContainedBy (g : Graph) (n p : Node) : Prop :=
  p ∈ g.nodes ∧ n.parent = some p.id

/-- Going up from a node, from parent to parent, leads to a node without a parent. -/
def Rooted (g : Graph) (n : Node) : Prop :=
  n ∈ g.nodes ∧ ∃ root, ReflTransGen g.ContainedBy n root ∧ root.parent = none

theorem mem_roots : n ∈ g.roots ↔ n ∈ g.nodes ∧ n.parent = none := by
  simp [roots]

theorem mem_children : m ∈ g.children n.id ↔ m ∈ g.nodes ∧ m.parent = some n.id := by
  simp [children]

theorem containedBy_of_mem_children (hn : n ∈ g.nodes) (h : m ∈ g.children n.id) :
    g.ContainedBy m n :=
  ⟨hn, (mem_children.mp h).2⟩

theorem rooted_of_mem_roots (h : n ∈ g.roots) : g.Rooted n :=
  ⟨(mem_roots.mp h).1, n, .refl, (mem_roots.mp h).2⟩

theorem Rooted.child (h : g.Rooted n) (hm : m ∈ g.children n.id) : g.Rooted m := by
  obtain ⟨hn, root, hchain, hroot⟩ := h
  exact ⟨(mem_children.mp hm).1, root, hchain.head (containedBy_of_mem_children hn hm), hroot⟩

theorem mem_nodes_of_chain (h : ReflTransGen g.ContainedBy n m) (hn : n ∈ g.nodes) :
    m ∈ g.nodes := by
  cases h with
  | refl => exact hn
  | tail _ hlast => exact hlast.1

/-! ## Going down -/

/-- Going down from a node, from one to those it contains, comes to an end within some steps. -/
def EndsWithin (g : Graph) : Nat → Node → Prop
  | 0, _ => False
  | steps + 1, n => ∀ m ∈ g.children n.id, g.EndsWithin steps m

theorem preorderAll_map (f : Node → Tree) (nodes : List Node) :
    preorderAll (nodes.map f) = nodes.flatMap fun n => (f n).preorder := by
  induction nodes with
  | nil => rfl
  | cons n nodes ih => rw [List.map_cons, preorderAll, ih, List.flatMap_cons]

theorem preorder_tree (g : Graph) (depth : Nat) (n : Node) : (g.tree (depth + 1) n).preorder
    = n :: (g.children n.id).flatMap fun m => (g.tree depth m).preorder := by
  rw [tree, Tree.preorder, preorderAll_map]

theorem chain_of_mem_tree : ∀ (depth : Nat) {n m : Node}, n ∈ g.nodes →
    m ∈ (g.tree depth n).preorder → m ∈ g.nodes ∧ ReflTransGen g.ContainedBy m n
  | 0, n, m, hn, h => by
    obtain rfl : m = n := by simpa [tree, Tree.preorder, preorderAll] using h
    exact ⟨hn, .refl⟩
  | depth + 1, n, m, hn, h => by
    rw [preorder_tree, List.mem_cons, List.mem_flatMap] at h
    rcases h with rfl | ⟨c, hc, hm⟩
    · exact ⟨hn, .refl⟩
    · obtain ⟨hmem, hchain⟩ := chain_of_mem_tree depth (mem_children.mp hc).1 hm
      exact ⟨hmem, hchain.tail (containedBy_of_mem_children hn hc)⟩

theorem mem_tree_of_chain : ∀ (depth : Nat) {n m : Node}, g.EndsWithin depth n → m ∈ g.nodes →
    ReflTransGen g.ContainedBy m n → m ∈ (g.tree depth n).preorder
  | depth + 1, n, m, hends, hm, hchain => by
    rw [preorder_tree, List.mem_cons, List.mem_flatMap]
    cases hchain with
    | refl => exact Or.inl rfl
    | @tail c _ hrest hlast =>
      have hc : c ∈ g.children n.id :=
        mem_children.mpr ⟨mem_nodes_of_chain hrest hm, hlast.2⟩
      exact Or.inr ⟨c, hc, mem_tree_of_chain depth (hends c hc) hm hrest⟩

/-! ## Distinct ids -/

section Distinct

variable (hid : (g.nodes.map (·.id)).Nodup)
include hid

theorem containedBy_unique : Relator.RightUnique g.ContainedBy := by
  rintro n p q ⟨hp, hnp⟩ ⟨hq, hnq⟩
  refine eq_of_id hid hp hq ?_
  rw [hnp] at hnq
  exact Option.some.inj hnq

theorem nodup_roots : g.roots.Nodup :=
  hid.of_map.filter _

theorem nodup_children (id : String) : (g.children id).Nodup :=
  hid.of_map.filter _

/-- Going up from a node that hangs below a root never leads back to it. -/
theorem not_circular (h : g.Rooted n) : ¬TransGen g.ContainedBy n n := by
  obtain ⟨-, root, hchain, hroot⟩ := h
  induction hchain using ReflTransGen.head_induction_on with
  | refl =>
    intro hcircle
    obtain ⟨p, ⟨-, hp⟩, -⟩ := TransGen.head'_iff.mp hcircle
    rw [hroot] at hp
    cases hp
  | head hstep _ ih =>
    -- the circle leads through the parent, which would be on it too
    intro hcircle
    obtain ⟨p, hp, hback⟩ := TransGen.head'_iff.mp hcircle
    rw [containedBy_unique hid hp hstep] at hback
    exact ih (TransGen.tail' hback hstep)

/-- Below two siblings there is nothing in common. -/
theorem eq_of_common (hp : g.Rooted p) (hq : g.Rooted q) (hparent : p.parent = q.parent)
    (hnp : ReflTransGen g.ContainedBy n p) (hnq : ReflTransGen g.ContainedBy n q) : p = q := by
  -- of two nodes above another one, one is above the other
  have habove : ∀ {a b : Node}, g.Rooted b → a.parent = b.parent →
      ReflTransGen g.ContainedBy a b → a = b := by
    intro a b hb hab hchain
    rcases ReflTransGen.cases_head hchain with heq | ⟨c, hc, hrest⟩
    · exact heq
    · exact absurd (TransGen.head' ⟨hc.1, hab ▸ hc.2⟩ hrest) (not_circular hid hb)
  rcases ReflTransGen.total_of_right_unique (containedBy_unique hid) hnp hnq with h | h
  · exact habove hq hparent h
  · exact (habove hp hparent.symm h).symm

/-- The way down to a node that hangs below a root passes no node twice, and so it can be no longer
than the list of nodes. -/
theorem endsWithin_of_path : ∀ (steps : Nat) (path : List Node) {n : Node}, g.Rooted n →
    path.Nodup → (∀ m ∈ path, m ∈ g.nodes ∧ ReflTransGen g.ContainedBy n m) →
    g.nodes.length < steps + path.length → g.EndsWithin steps n
  | 0, path, n, _, hnodup, hpath, hlength => by
    have hle := (List.subperm_of_subset hnodup fun m hm => (hpath m hm).1).length_le
    omega
  | steps + 1, path, n, hn, hnodup, hpath, hlength => by
    intro c hc
    have hcn := containedBy_of_mem_children hn.1 hc
    refine endsWithin_of_path steps (c :: path) (hn.child hc) ?_ ?_ ?_
    · refine List.nodup_cons.mpr ⟨fun hmem => ?_, hnodup⟩
      exact not_circular hid (hn.child hc) (TransGen.head' hcn (hpath c hmem).2)
    · intro m hm
      rcases List.mem_cons.mp hm with rfl | hm
      · exact ⟨(hn.child hc).1, .refl⟩
      · exact ⟨(hpath m hm).1, (hpath m hm).2.head hcn⟩
    · rw [List.length_cons]
      omega

/-- From a root, going down ends within as many steps as there are nodes. -/
theorem endsWithin_of_mem_roots (h : n ∈ g.roots) : g.EndsWithin g.nodes.length n := by
  refine endsWithin_of_path hid _ [n] (rooted_of_mem_roots h) (List.nodup_singleton n) ?_ (by simp)
  intro m hm
  obtain rfl := List.mem_singleton.mp hm
  exact ⟨(mem_roots.mp h).1, .refl⟩

/-- The trees of siblings have no node twice if none of them has. -/
theorem nodup_siblings {depth : Nat} {siblings : List Node} (hnodup : siblings.Nodup)
    (hrooted : ∀ n ∈ siblings, g.Rooted n)
    (hparent : ∀ n ∈ siblings, ∀ m ∈ siblings, n.parent = m.parent)
    (htree : ∀ n ∈ siblings, (g.tree depth n).preorder.Nodup) :
    (siblings.flatMap fun n => (g.tree depth n).preorder).Nodup := by
  refine List.nodup_flatMap.mpr ⟨htree, hnodup.pairwise_of_forall_ne ?_⟩
  intro p hp q hq hne m hmp hmq
  exact hne (eq_of_common hid (hrooted p hp) (hrooted q hq) (hparent p hp q hq)
    (chain_of_mem_tree depth (hrooted p hp).1 hmp).2
    (chain_of_mem_tree depth (hrooted q hq).1 hmq).2)

theorem nodup_tree : ∀ (depth : Nat) {n : Node}, g.Rooted n → (g.tree depth n).preorder.Nodup
  | 0, n, _ => by simp [tree, Tree.preorder, preorderAll]
  | depth + 1, n, hn => by
    rw [preorder_tree, List.nodup_cons]
    constructor
    · intro hmem
      obtain ⟨c, hc, hnc⟩ := List.mem_flatMap.mp hmem
      have hchain := (chain_of_mem_tree depth (mem_children.mp hc).1 hnc).2
      exact not_circular hid hn (TransGen.tail' hchain (containedBy_of_mem_children hn.1 hc))
    · refine nodup_siblings hid (nodup_children hid n.id) (fun c hc => hn.child hc) ?_
        fun c hc => nodup_tree depth (hn.child hc)
      intro c hc d hd
      rw [(mem_children.mp hc).2, (mem_children.mp hd).2]

/-- The trees of a graph have no node twice. -/
theorem nodup_forest : (preorderAll g.forest).Nodup := by
  rw [forest, preorderAll_map]
  refine nodup_siblings hid (nodup_roots hid) (fun n hn => rooted_of_mem_roots hn) ?_
    fun n hn => nodup_tree hid _ (rooted_of_mem_roots hn)
  intro n hn m hm
  rw [(mem_roots.mp hn).2, (mem_roots.mp hm).2]

/-- The nodes of the trees are those from which going up leads to a root. -/
theorem mem_forest_iff : n ∈ preorderAll g.forest ↔ g.Rooted n := by
  rw [forest, preorderAll_map, List.mem_flatMap]
  constructor
  · rintro ⟨root, hroot, hn⟩
    obtain ⟨hmem, hchain⟩ := chain_of_mem_tree _ (mem_roots.mp hroot).1 hn
    exact ⟨hmem, root, hchain, (mem_roots.mp hroot).2⟩
  · rintro ⟨hmem, root, hchain, hroot⟩
    have hroots : root ∈ g.roots := mem_roots.mpr ⟨mem_nodes_of_chain hchain hmem, hroot⟩
    exact ⟨root, hroots, mem_tree_of_chain _ (endsWithin_of_mem_roots hid hroots) hmem hchain⟩

/-- If all nodes hang below roots, the trees hold all nodes. -/
theorem forest_perm (h : ∀ n ∈ g.nodes, g.Rooted n) : (preorderAll g.forest).Perm g.nodes := by
  refine (List.perm_ext_iff_of_nodup (nodup_forest hid) hid.of_map).mpr fun n => ?_
  rw [mem_forest_iff hid]
  exact ⟨fun hn => hn.1, h n⟩

end Distinct

/-! ## Plays and casts -/

/-- In a graph in form everything is a scene or in a scene. -/
theorem WellFormed.rooted (h : g.WellFormed) (hn : n ∈ g.nodes) : g.Rooted n := by
  cases hp : n.parent with
  | none => exact rooted_of_mem_roots (mem_roots.mpr ⟨hn, hp⟩)
  | some id =>
    obtain ⟨before, after, heq⟩ := List.append_of_mem hn
    obtain ⟨scene, hmem, rfl, hkind⟩ := h.parents before n after id heq hp
    have hscene : scene ∈ g.nodes := by
      rw [heq]
      exact List.mem_append_left _ hmem
    exact ⟨hn, scene, .single ⟨hscene, hp⟩, (h.roots scene hscene).mpr hkind⟩

end Graph

theorem Roster.cast_eq_built {r : Roster} {g : Graph} (h : r.cast.outcome = .ok g) :
    g = Graph.built ((directionLegend :: r.characters.map (·.castNode)).map .node) :=
  Graph.built_of_build h

/-- Nothing contains what is in a cast. -/
theorem Roster.parent_eq_none_of_cast {r : Roster} {g : Graph} {n : Node}
    (h : r.cast.outcome = .ok g) (hn : n ∈ g.nodes) : n.parent = none := by
  rw [cast_eq_built h] at hn
  obtain ⟨m, hm, heq⟩ := List.mem_map.mp (Graph.mem_calls_of_mem_built hn)
  cases heq
  rcases List.mem_cons.mp hm with rfl | hm
  · rfl
  · obtain ⟨c, -, rfl⟩ := List.mem_map.mp hm
    rfl

theorem Roster.rooted_of_cast {r : Roster} {g : Graph} {n : Node} (h : r.cast.outcome = .ok g)
    (hn : n ∈ g.nodes) : g.Rooted n :=
  Graph.rooted_of_mem_roots (Graph.mem_roots.mpr ⟨hn, parent_eq_none_of_cast h hn⟩)

end Dramaturgy
