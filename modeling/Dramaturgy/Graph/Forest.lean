import Dramaturgy.Graph

/-!
# Containment

The nodes of a graph as trees: below each node stand the nodes it contains, in the order in which
they were added. A node has one parent, so a chain of nodes that starts at a root never comes back to
a node it has passed; it is no longer than the list of nodes, and that bounds the depth of a tree.
Nodes that contain one another in a circle, or whose parent does not exist, hang below no root.
-/

namespace Dramaturgy

/-- A node and the trees below it. -/
inductive Tree where
  | node (root : Node) (below : List Tree)
deriving Repr

namespace Graph

/-- The tree of a node, down to the given depth below it. -/
def tree (g : Graph) : Nat → Node → Tree
  | 0, n => .node n []
  | depth + 1, n => .node n ((g.children n.id).map (g.tree depth))

/-- The trees of the nodes that no node contains. -/
def forest (g : Graph) : List Tree :=
  g.roots.map (g.tree g.nodes.length)

end Graph

/-! ## Going through trees -/

mutual

/-- The nodes of a tree, each before those below it. -/
def Tree.preorder : Tree → List Node
  | .node n below => n :: preorderAll below

/-- The nodes of some trees. -/
def preorderAll : List Tree → List Node
  | [] => []
  | t :: ts => t.preorder ++ preorderAll ts

end

end Dramaturgy
