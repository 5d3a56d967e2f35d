import Dramaturgy.Performance

/-!
# The cast

A graph without edges that introduces the characters of a roster, after one node that explains what
the directions of a play stand for. It is drawn apart from the plot, which it does not look at.
-/

namespace Dramaturgy

/-- The node that explains directions. -/
def directionLegend : Node :=
  { id := "direction", kind := .direction
    label := "Processing description, user action or other operation" }

namespace Character

/-- The name, the description, and the tags if there are any. -/
def introduction (c : Character) : String :=
  c.name ++ "\n\n" ++ c.description ++
    if c.tags.isEmpty then "" else "\n(" ++ ", ".intercalate c.tags ++ ")"

/-- The node that introduces a character. -/
def castNode (c : Character) : Node :=
  { id := c.name, kind := .character, label := c.introduction, tags := c.tags }

end Character

/-- The graph that introduces the characters of a roster. -/
def Roster.cast (r : Roster) : Report Graph :=
  Graph.build (directionLegend :: r.characters.map (·.castNode)) []

/-- The cast of a script as a play. The plot is not performed. -/
def Script.cast (v : Vocabulary) (script : Script) : Report Play :=
  (script.roster v).andThen fun roster =>
    roster.cast.andThen fun graph => .silent (.ok (script.toPlay roster graph))

end Dramaturgy
