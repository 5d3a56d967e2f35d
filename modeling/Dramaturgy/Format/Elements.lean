import Dramaturgy.Bracket
import Dramaturgy.Json.Writer
import Dramaturgy.Performance

/-!
# The play as a list of elements

The element list of the Cytoscape renderer: the nodes of a play and then its edges, each with its data
and with the names of renderer classes. The class of a node's kind comes first, and a class for each
tag after it. How an element looks is left to the renderer.
-/

namespace Dramaturgy

/-- The renderer classes of a node. -/
def Node.classes (n : Node) : List String :=
  n.kind.name :: n.tags.map tagClass

/-- The renderer classes of an edge. -/
def Edge.classes (e : Edge) : List String :=
  e.tags.map tagClass

/-- A node as an element. -/
def Node.toElement (n : Node) : Json :=
  .object [("group", .string "nodes"),
    ("data", .object (
      ("id", .string n.id) ::
      (n.parent.toList.map fun parent => ("parent", Json.string parent)) ++
      [("label", .string n.label)])),
    ("classes", .strings n.classes)]

/-- An edge as an element. -/
def Edge.toElement (e : Edge) : Json :=
  .object [("group", .string "edges"),
    ("data", .object [("source", .string e.source), ("target", .string e.target),
      ("label", .string e.label)]),
    ("classes", .strings e.classes)]

/-- A play as a list of elements. -/
def Play.elements (layout : Json.Layout) (p : Play) : String :=
  (Json.array (p.graph.nodes.map (·.toElement) ++ p.graph.edges.map (·.toElement))).render layout

end Dramaturgy
