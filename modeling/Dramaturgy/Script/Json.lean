import Dramaturgy.Json
import Dramaturgy.Script

/-!
# Scripts as JSON documents

A script given as a JSON object: `TITLE`, `BY` and `SYNOPSIS` are strings and may be null or missing,
`CHARACTERS` is a list of objects of strings and may be missing, and `PLOT` is a list of objects of
scene lists. In a scene list a string is a marker and an object holds lists of remarks; in a list of
remarks a string is a direction and an object holds lists of lines. Other fields of the document are
ignored. A document with a value of another kind in any of these places is refused as a whole.
-/

namespace Dramaturgy

namespace Json

/-- A string. -/
def string? : Json → Option String
  | .string s => some s
  | _ => none

/-- A list, all of whose items can be read. -/
def list? {α : Type} (item? : Json → Option α) : Json → Option (List α)
  | .array items => items.mapM item?
  | _ => none

/-- A record, all of whose values can be read. -/
def record? {α : Type} (value? : Json → Option α) : Json → Option (Record α)
  | .object fields =>
    (fields.mapM fun field => (value? field.2).map fun value => (field.1, value)).map Record.ofList
  | _ => none

/-- A remark. -/
def remark? : Json → Option Remark
  | .string text => some (.direction text)
  | json => (json.record? (list? string?)).map .speech

/-- An entry of an act. -/
def sceneEntry? : Json → Option SceneEntry
  | .string text => some (.marker text)
  | json => (json.record? (list? remark?)).map .scene

/-- A text about the play, which may be null or missing. -/
def text? : Option Json → Option (Option String)
  | none => some none
  | some .null => some none
  | some (.string s) => some (some s)
  | some _ => none

/-- The roster, which may be missing. -/
def rosterRecords? : Option Json → Option (List (Record String))
  | none => some []
  | some json => json.list? (record? string?)

end Json

/-- The script that a JSON document holds. -/
def Script.ofJson? (document : Json) : Option Script :=
  match document with
  | .object _ => do
    let title ← Json.text? (document.field? "TITLE")
    let author ← Json.text? (document.field? "BY")
    let synopsis ← Json.text? (document.field? "SYNOPSIS")
    let characters ← Json.rosterRecords? (document.field? "CHARACTERS")
    let plot ← (document.field? "PLOT").bind (Json.list? (Json.record? (Json.list? Json.sceneEntry?)))
    some { title, author, synopsis, characters, plot }
  | _ => none

end Dramaturgy
