import Dramaturgy.Json.Writer
import Dramaturgy.Performance

/-!
# The play as a JSON document

One object with the texts about the play, the list of its nodes and the list of its edges. A text
that is missing is written as null. A node without a parent has no such field.
-/

namespace Dramaturgy

/-- A node as a JSON object. -/
def Node.toJson (n : Node) : Json :=
  .object (
    ("id", .string n.id) ::
    (n.parent.toList.map fun parent => ("parent", Json.string parent)) ++
    [("label", .string n.label), ("kind", .string n.kind.name), ("tags", .strings n.tags)])

/-- An edge as a JSON object. -/
def Edge.toJson (e : Edge) : Json :=
  .object [("source", .string e.source), ("target", .string e.target), ("label", .string e.label),
    ("tags", .strings e.tags)]

/-- A play as a JSON object. -/
def Play.toJson (p : Play) : Json :=
  .object [("title", .ofOption p.title), ("by", .ofOption p.author),
    ("synopsis", .ofOption p.synopsis), ("nodes", .array (p.graph.nodes.map (·.toJson))),
    ("edges", .array (p.graph.edges.map (·.toJson)))]

/-- A play as the text of a JSON document. -/
def Play.document (layout : Json.Layout) (p : Play) : String :=
  p.toJson.render layout

end Dramaturgy
