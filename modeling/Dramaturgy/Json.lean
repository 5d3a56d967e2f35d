/-!
# JSON values

The fields of an object keep the order in which they are written. A number is kept as it is written,
because nothing here computes with numbers.
-/

namespace Dramaturgy

/-- A JSON value. -/
inductive Json where
  | null
  | bool (value : Bool)
  | number (literal : String)
  | string (value : String)
  | array (items : List Json)
  | object (fields : List (String × Json))
deriving Inhabited, Repr

namespace Json

/-- An array of strings. -/
def strings (values : List String) : Json :=
  .array (values.map .string)

/-- A string, or null in place of none. -/
def ofOption (value : Option String) : Json :=
  match value with
  | none => .null
  | some s => .string s

/-- The value of a field of an object. Of several fields with one name the last one counts. -/
def field? (name : String) : Json → Option Json
  | .object fields => fields.reverse.lookup name
  | _ => none

end Json

end Dramaturgy
