import Dramaturgy.Json.Writer
import Dramaturgy.Settings.Tree
import Dramaturgy.Toml.Document
import Dramaturgy.Vocabulary

/-!
# Settings

The vocabulary that scripts are read with and how plays are written out. Settings start from their
defaults; documents are laid over these in their order, and after all documents single values that
are assigned to paths of keys. The result is one tree, from which the settings are read;
`ofTree?_tree` says that settings written as a tree are read back.
-/

namespace Dramaturgy

/-- How scripts are read and plays are written out. -/
structure Settings where
  vocabulary : Vocabulary := {}
  /-- The name of the format in which plays are written out. -/
  format : String := "json"
  /-- Whether formats that can be indented are. -/
  pretty : Bool := true
deriving DecidableEq, Repr

namespace Settings

open Toml (Value)

/-- How formats that can be indented are written. -/
def layout (s : Settings) : Json.Layout :=
  if s.pretty then .indented else .compact

/-! ## Settings as a tree -/

/-- A vocabulary as a table. -/
def vocabularyEntries (v : Vocabulary) : List (String × Value) :=
  [("tags_start", .string v.tagsOpen),
   ("tags_end", .string v.tagsClose),
   ("values_separator", .string v.separator),
   ("accost_start", .string v.addressOpen),
   ("accost_end", .string v.addressClose),
   ("end", .string v.curtain),
   ("act_prefix", .string v.actHeading),
   ("scene_prefix", .string v.sceneHeading)]

/-- Settings as a tree. -/
def tree (s : Settings) : Value :=
  .table
    [("vocabulary", .table (vocabularyEntries s.vocabulary)),
     ("output", .table [("format", .string s.format), ("pretty", .boolean s.pretty)])]

/-- A value as text. -/
def text? : Value → Option String
  | .string text => some text
  | .integer number => some (toString number)
  | .fraction number => some number.text
  | .boolean flag => some (toString flag)
  | .moment text => some text
  | .array _ | .table _ => none

/-- A value as a truth value: a number holds if it is not zero. -/
def flag? : Value → Option Bool
  | .boolean flag => some flag
  | .integer number => some (number != 0)
  | .fraction number => some !number.isZero
  | .string text =>
    let word := smallKey text
    if ["1", "true", "on", "yes"].contains word then some true
    else if ["0", "false", "off", "no"].contains word then some false
    else none
  | .moment _ | .array _ | .table _ => none

/-- The fields of a table by name. The items of an array are its fields in the given order. -/
def fields? (names : List String) : Value → Option (List (String × Value))
  | .table es => some es
  | .array items => some (names.zip items)
  | _ => none

/-- The field of the given name, read in the given way; a missing one has its default. -/
def field? {α : Type} (fields : List (String × Value)) (read : Value → Option α)
    (name : String) (default : α) : Option α :=
  match fields.lookup name with
  | none => some default
  | some value => read value

/-- The vocabulary that a value stands for. -/
def vocabulary? (value : Value) : Option Vocabulary := do
  let default : Vocabulary := {}
  let fields ← fields? ((vocabularyEntries default).map (·.1)) value
  some
    { tagsOpen := ← field? fields text? "tags_start" default.tagsOpen
      tagsClose := ← field? fields text? "tags_end" default.tagsClose
      separator := ← field? fields text? "values_separator" default.separator
      addressOpen := ← field? fields text? "accost_start" default.addressOpen
      addressClose := ← field? fields text? "accost_end" default.addressClose
      curtain := ← field? fields text? "end" default.curtain
      actHeading := ← field? fields text? "act_prefix" default.actHeading
      sceneHeading := ← field? fields text? "scene_prefix" default.sceneHeading }

/-- The name of the format and whether it is indented. -/
def output? (value : Value) : Option (String × Bool) := do
  let default : Settings := {}
  let fields ← fields? ["format", "pretty"] value
  some (← field? fields text? "format" default.format, ← field? fields flag? "pretty" default.pretty)

/-- The settings that a tree stands for. Keys that are not known do not count. -/
def ofTree? (tree : Value) : Option Settings := do
  let default : Settings := {}
  let vocabulary ← field? (entries tree) vocabulary? "vocabulary" default.vocabulary
  let (format, pretty) ← field? (entries tree) output? "output" (default.format, default.pretty)
  some { vocabulary, format, pretty }

/-- Settings written as a tree are read back. -/
theorem ofTree?_tree (s : Settings) : ofTree? s.tree = some s := by
  rfl

/-! ## Layers -/

/-- Something that is laid over the settings. -/
inductive Layer where
  /-- The text of a document; none if there is no such document. -/
  | document (text : Option String) (optional : Bool)
  /-- A value that is assigned to a path of keys. -/
  | assignment (path : String) (value : Value)

/-- Lays a document over a tree. One that cannot be read is a fault, and so is a missing one unless
it is optional. Assignments wait. -/
def addDocument? (tree : Value) : Layer → Option Value
  | .document (some text) _ =>
    (Toml.parse? text).map fun document => overlayDocument document tree
  | .document none optional => if optional then some tree else none
  | .assignment .. => some tree

/-- Assigns a value. The path must be well formed. -/
def assign? (tree : Value) : Layer → Option Value
  | .document .. => some tree
  | .assignment path value => (path? path).map fun path => overlayAt value path tree

/-- The settings that come of some layers. Assignments come after all documents. -/
def ofLayers? (layers : List Layer) : Option Settings := do
  let documents ← layers.foldlM addDocument? ({} : Settings).tree
  let assigned ← layers.foldlM assign? documents
  ofTree? assigned

end Settings

end Dramaturgy
