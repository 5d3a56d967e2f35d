import Dramaturgy.Bracket
import Dramaturgy.Note

/-!
# Lines of a speech

A line of a speech is dialogue when it starts with an address, and a stage direction otherwise.

    [Lights dim.]                    the direction "Lights dim."
    (To Bob[urgent], Ann)Go now.     "Go now." to Bob, with the tag "urgent", and to Ann

Reading a line never fails. Where it reads a line in another way than its author may have meant,
`notes` says so.
-/

namespace Dramaturgy

open Text

/-- One of those to whom a line of dialogue is addressed. -/
structure Addressee where
  name : String
  tag : Option String := none
deriving DecidableEq, Repr

namespace Addressee

/-- Reads an addressee. A bracket that is never closed belongs to the name. -/
def ofToken (v : Vocabulary) (token : String) : Addressee :=
  match v.bracketed token with
  | .tagged text inner => { name := trimmed text, tag := some (trimmed inner) }
  | .plain text => { name := trimmed text }
  | .unclosed text => { name := trimmed text }

/-- What reading an addressee has to tell. -/
def tokenNotes (v : Vocabulary) (token : String) : List Note :=
  match v.bracketed token with
  | .unclosed text => [.unclosedAddressee text]
  | _ => []

/-- Whether there is no name, as happens after a separator at the end of an address. -/
def isEmpty (a : Addressee) : Bool :=
  a.name.isEmpty

end Addressee

/-- A line of dialogue. -/
structure Dialogue where
  /-- The addressees in the order in which they are written, those without a name included. -/
  addressees : List Addressee
  /-- What follows the address, blanks included. -/
  text : String
deriving DecidableEq, Repr

namespace Dialogue

/-- The tags of the line: those written at any of its addressees. -/
def tags (d : Dialogue) : List String :=
  d.addressees.filterMap (·.tag)

/-- The addressees that have a name. -/
def listeners (d : Dialogue) : List Addressee :=
  d.addressees.filter (!·.isEmpty)

end Dialogue

/-- A line of a speech. -/
inductive Line where
  | direction (text : String)
  | dialogue (dialogue : Dialogue)
deriving DecidableEq, Repr

/-! ## Taking a line apart -/

/-- The parts of a line, as its marks divide it. -/
inductive LineForm where
  /-- No address is opened. -/
  | direction
  /-- An address is opened and never closed. -/
  | unclosed
  /-- The tokens of the address, and what follows it. -/
  | addressed (tokens : List String) (text : String)
deriving DecidableEq, Repr

/-- Divides a line at the marks of its address. -/
def Vocabulary.lineForm (v : Vocabulary) (line : String) : LineForm :=
  match after? v.addressOpen.toList line.toList with
  | none => .direction
  | some rest =>
    match cut? v.addressClose.toList rest with
    | none => .unclosed
    | some (address, text) =>
      .addressed ((split v.separator.toList address).map String.ofList) (String.ofList text)

/-- What the text of a stage direction has to tell: whether its brackets are missing. -/
def Vocabulary.directionNotes (v : Vocabulary) (line : String) : List Note :=
  match v.enclosed? line with
  | some _ => []
  | none => [.bareDirection line]

namespace Line

/-- Reads a line. -/
def ofText (v : Vocabulary) (line : String) : Line :=
  match v.lineForm line with
  | .direction => .direction (v.directionText line)
  | .unclosed => .direction line
  | .addressed tokens text => .dialogue { addressees := tokens.map (.ofToken v), text }

/-- What reading a line has to tell. -/
def notes (v : Vocabulary) (line : String) : List Note :=
  match v.lineForm line with
  | .direction => v.directionNotes line
  | .unclosed => [.unclosedAddress line]
  | .addressed tokens _ => tokens.flatMap (Addressee.tokenNotes v)

end Line

end Dramaturgy
