import Dramaturgy.Json.Token

/-!
# Reading JSON

The tokens of a text are read one after the other. `Frame` is an array or an object that is not yet
closed, and `Reading` says what may come next. No fuel is needed: each token is one step.
-/

namespace Dramaturgy.Json

/-- An array or an object that is not yet closed. Items and fields are in reverse order. -/
inductive Frame where
  | array (items : List Json)
  /-- The value of the field `name` is yet to come. -/
  | object (fields : List (String × Json)) (name : String)

/-- What may come next, and the arrays and objects around it, the innermost first. -/
inductive Reading where
  | atValue (around : List Frame)
  /-- The first item of an array, or its end. -/
  | atFirstItem (around : List Frame)
  /-- The first field of an object, or its end. -/
  | atFirstField (around : List Frame)
  /-- The name of a further field. -/
  | atName (fields : List (String × Json)) (around : List Frame)
  | atColon (fields : List (String × Json)) (name : String) (around : List Frame)
  /-- A value is complete; a comma or the end of what holds it. -/
  | after (value : Json) (around : List Frame)

/-- Begins a value. -/
def beginValue? (around : List Frame) : Token → Option Reading
  | .scalar value => some (.after value around)
  | .arrayOpen => some (.atFirstItem around)
  | .objectOpen => some (.atFirstField around)
  | _ => none

/-- Reads the name of a field. -/
def readName? (fields : List (String × Json)) (around : List Frame) : Token → Option Reading
  | .scalar (.string name) => some (.atColon fields name around)
  | _ => none

/-- Reads one token. -/
def Reading.step? (token : Token) : Reading → Option Reading
  | .atValue around => beginValue? around token
  | .atFirstItem around =>
    match token with
    | .arrayClose => some (.after (.array []) around)
    | _ => beginValue? (.array [] :: around) token
  | .atFirstField around =>
    match token with
    | .objectClose => some (.after (.object []) around)
    | _ => readName? [] around token
  | .atName fields around => readName? fields around token
  | .atColon fields name around =>
    match token with
    | .colon => some (.atValue (.object fields name :: around))
    | _ => none
  | .after value around =>
    match around, token with
    | .array items :: around, .comma => some (.atValue (.array (value :: items) :: around))
    | .array items :: around, .arrayClose =>
      some (.after (.array (value :: items).reverse) around)
    | .object fields name :: around, .comma => some (.atName ((name, value) :: fields) around)
    | .object fields name :: around, .objectClose =>
      some (.after (.object ((name, value) :: fields).reverse) around)
    | _, _ => none

/-- Reads tokens on from what has been read. -/
def readFrom? (reading : Reading) : List Token → Option Reading
  | [] => some reading
  | token :: tokens =>
    match reading.step? token with
    | none => none
    | some reading => readFrom? reading tokens

/-- The value that a text writes, with nothing but blanks around it. -/
def parse? (s : String) : Option Json :=
  match (tokens? s.toList).bind (readFrom? (.atValue [])) with
  | some (.after value []) => some value
  | _ => none

end Dramaturgy.Json
