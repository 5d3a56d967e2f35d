import Dramaturgy.Format.Document
import Dramaturgy.Format.Drawing
import Dramaturgy.Format.Elements

/-!
# The catalogue of formats

Formats by name. The catalogue lists them in the order of their names, and holds one format of a name:
the one that was added last.
-/

namespace Dramaturgy

/-- A way to write a play as text. -/
structure Format where
  name : String
  description : String := ""
  write : Play → String

namespace Format

/-- The play as a JSON document. -/
def json (layout : Json.Layout) : Format where
  name := "json"
  description := "Node and edge lists with script metadata"
  write := Play.document layout

/-- The play as a list of elements. -/
def cytoscape (layout : Json.Layout) : Format where
  name := "cytoscape"
  description := "Cytoscape element list with kind and tag classes"
  write := Play.elements layout

/-- The play as a drawing. -/
def treeviz : Format where
  name := "treeviz"
  description := "Visual tree of scenes and their nodes, followed by the edges"
  write := Play.drawing

end Format

/-- Formats in the order of their names. -/
structure Catalogue where
  formats : List Format := []

namespace Catalogue

/-- Puts a format in its place among others, in place of one of the same name. -/
def place (f : Format) : List Format → List Format
  | [] => [f]
  | g :: gs =>
    if f.name < g.name then f :: g :: gs
    else if f.name = g.name then f :: gs
    else g :: place f gs

/-- Adds a format. -/
def add (c : Catalogue) (f : Format) : Catalogue :=
  { formats := place f c.formats }

/-- The format of the given name. -/
def find? (c : Catalogue) (name : String) : Option Format :=
  c.formats.find? (·.name == name)

/-- The text of a play in the format of the given name, if there is one. -/
def write? (c : Catalogue) (name : String) (p : Play) : Option String :=
  (c.find? name).map (·.write p)

/-- The formats that are always there. -/
def builtIn (layout : Json.Layout) : Catalogue :=
  ((({} : Catalogue).add (.json layout)).add (.cytoscape layout)).add .treeviz

/-- Names and descriptions, as they are listed. -/
def listing (c : Catalogue) : String :=
  "Available output formats:\n\n" ++
    String.join (c.formats.map fun f => "  " ++ f.name ++ "\n    " ++ f.description ++ "\n\n")

end Catalogue

end Dramaturgy
