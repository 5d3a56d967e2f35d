import Dramaturgy.Fault

/-!
# The graph of a play

Nodes and edges in the order in which they were added. Nothing is ever taken out or changed: an id
belongs to the first node that came with it. An edge reads "the source addresses the target", and
both its ends are nodes of the graph from the moment it is added. A parent is only a name; nothing
asks that such a node exist.
-/

namespace Dramaturgy

/-- What a node stands for. -/
inductive NodeKind where
  | scene
  | direction
  | character
deriving DecidableEq, Repr

/-- The name of a kind. It is also its renderer class. -/
def NodeKind.name : NodeKind → String
  | .scene => "scene"
  | .direction => "direction"
  | .character => "character"

/-- A node of a play. -/
structure Node where
  id : String
  kind : NodeKind
  label : String
  /-- The id of the node that contains this one. -/
  parent : Option String := none
  tags : List String := []
deriving DecidableEq, Repr

/-- An edge of a play. -/
structure Edge where
  source : String
  target : String
  label : String := ""
  tags : List String := []
deriving DecidableEq, Repr

/-- Whether an edge has neither a label nor tags. -/
def Edge.isBare (e : Edge) : Bool :=
  e.label.isEmpty && e.tags.isEmpty

/-- Nodes and edges in the order in which they were added. -/
structure Graph where
  nodes : List Node := []
  edges : List Edge := []
deriving DecidableEq, Repr

namespace Graph

/-- The node with the given id. -/
def node? (g : Graph) (id : String) : Option Node :=
  g.nodes.find? (·.id == id)

/-- Whether the graph has a node with the given id. -/
def contains (g : Graph) (id : String) : Bool :=
  (g.node? id).isSome

/-- The nodes that a node contains. -/
def children (g : Graph) (parent : String) : List Node :=
  g.nodes.filter (·.parent == some parent)

/-- The nodes that no node contains. -/
def roots (g : Graph) : List Node :=
  g.nodes.filter (·.parent == none)

/-- Adds a node, unless its id is taken, and says whether it was added. -/
def addNode (g : Graph) (n : Node) : Except Fault (Bool × Graph) :=
  match g.node? n.id with
  | none => .ok (true, { g with nodes := g.nodes ++ [n] })
  | some m => if m.kind = n.kind then .ok (false, g) else .error (.identifierCollision n.id)

/-- Adds an edge between two nodes of the graph. -/
def addEdge (g : Graph) (e : Edge) : Except Fault Graph :=
  if !g.contains e.source then
    .error (.danglingEdge e.source)
  else if !g.contains e.target then
    .error (.danglingEdge e.target)
  else
    .ok { g with edges := g.edges ++ [e] }

end Graph

end Dramaturgy
