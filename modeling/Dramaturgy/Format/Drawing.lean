import Dramaturgy.Graph.Forest
import Dramaturgy.Performance
import Dramaturgy.Text.FirstLine

/-!
# The play as a drawing

A tree of the nodes for reading in a terminal, and below it a line for each edge:

    ⧉ Greeting
    └─ § SCENE 1
      ├─ ¶ Curtain rises.
      ├─ ☺ Alice (User)
      └─ ☺ Bob
    ↦ Alice → Bob: Hi

Of a label only the first line is shown, and of that, as of every other text but the tags, no more
than 30 characters.
-/

namespace Dramaturgy

open Text

/-- A text as it is shown: no more than 30 characters of it. -/
def shown (s : List Char) : String :=
  String.ofList (shorten 30 s)

/-- The tags as they are shown behind something. -/
def shownTags (tags : List String) : String :=
  if tags.isEmpty then "" else " (" ++ ", ".intercalate tags ++ ")"

/-- The sign of a kind. -/
def NodeKind.sign : NodeKind → String
  | .scene => "§"
  | .direction => "¶"
  | .character => "☺"

/-- A node as it is shown. -/
def Node.shown (n : Node) : String :=
  n.kind.sign ++ " " ++ Dramaturgy.shown ((firstLine? n.label.toList).getD []) ++ shownTags n.tags

mutual

/-- The lines of a tree. `last` says whether it is the last one below its parent. -/
def Tree.drawn (indent : String) (last : Bool) : Tree → List String
  | .node n below =>
    (indent ++ (if last then "└─" else "├─") ++ " " ++ n.shown) ::
      drawnAll (indent ++ if last then "  " else "│ ") below

/-- The lines of the trees below a node. -/
def drawnAll (indent : String) : List Tree → List String
  | [] => []
  | t :: ts => t.drawn indent ts.isEmpty ++ drawnAll indent ts

end

/-- An end of an edge as it is shown: by its label, if that has a line, and by its id otherwise. -/
def Graph.shownEnd (g : Graph) (id : String) : String :=
  shown (((g.node? id).bind fun n => firstLine? n.label.toList).getD id.toList)

/-- The line of an edge. -/
def Graph.shownEdge (g : Graph) (e : Edge) : String :=
  "↦ " ++ g.shownEnd e.source ++ " → " ++ g.shownEnd e.target ++
    (if e.label.isEmpty then "" else ": " ++ shown e.label.toList) ++ shownTags e.tags

/-- The lines of a play. -/
def Play.drawnLines (p : Play) : List String :=
  ("⧉ " ++ shown (p.title.getD "Untitled").toList) ::
    drawnAll "" p.graph.forest ++ p.graph.edges.map p.graph.shownEdge

/-- A play as a drawing, each line of which ends in a line break. -/
def Play.drawing (p : Play) : String :=
  String.join (p.drawnLines.map (· ++ "\n"))

end Dramaturgy
