import Dramaturgy.Toml.Draft
import Dramaturgy.Toml.Scalar
import Dramaturgy.Toml.Token

/-!
# TOML documents

The tokens of a text are read one after the other. A document is a row of statements, one to a line:
an entry, the header of a table, or the header of the next one of several tables. Each statement is
carried out on the table that the document has become so far.

`Reading` says what may come next, and `Frame` is an array or a table in braces that is not yet
closed. Each token is one step, so that the only recursion is on the list of tokens.
-/

namespace Dramaturgy.Toml

/-! ## Keys -/

/-- A path of keys that is being read. -/
structure KeyPath where
  /-- The keys so far, in reverse order. -/
  keys : List String := []
  /-- Whether another key must follow. -/
  due : Bool := true

namespace KeyPath

/-- How many keys a path may have, and how many arrays and tables may be open at a time. -/
def limit : Nat := 79

/-- Reads a key. -/
def key? (k : KeyPath) (key : String) : Option KeyPath :=
  if k.due then some { keys := key :: k.keys, due := false } else none

/-- Reads a dot. -/
def dot? (k : KeyPath) : Option KeyPath :=
  if k.due then none else some { k with due := true }

/-- Reads the letters of a key, if there are any. -/
def letters? (k : KeyPath) (letters : List Char) : Option KeyPath :=
  if letters.isEmpty then some k else k.key? (String.ofList letters.reverse)

/-- Whether a key may hold a character without being quoted. -/
def isBare (c : Char) : Bool :=
  c.isAlphanum || c == '_' || c == '-'

/-- Reads a word of keys and dots on. The letters of the key at hand are in reverse order. -/
def word? (letters : List Char) (k : KeyPath) : List Char → Option KeyPath
  | [] => k.letters? letters
  | c :: s =>
    if c = '.' then do (← (← k.letters? letters).dot?).word? [] s
    else if isBare c then k.word? (c :: letters) s
    else none

/-- The path, if it is complete. -/
def path? (k : KeyPath) : Option (List String) :=
  if k.due || k.keys.length > limit then none else some k.keys.reverse

end KeyPath

/-! ## Statements -/

/-- What a line says. -/
inductive Statement where
  | entry (path : List String) (value : Value)
  | table (path : List String)
  /-- The header of the next one of several tables. -/
  | element (path : List String)

/-- The document so far, and the path of the table that entries go to. -/
structure Document where
  root : Draft := {}
  here : List String := []

/-- Carries out a statement. -/
def Document.add? (d : Document) : Statement → Option Document
  | .entry path value =>
    (d.root.within? .implied (·.insert? path value) d.here).map fun root => { d with root }
  | .table path => (d.root.define? path).map fun root => { root, here := path }
  | .element path => (d.root.extend? path).map fun root => { root, here := path }

/-! ## Reading -/

/-- What a value belongs to. -/
inductive Frame where
  /-- An entry of the document. -/
  | line (path : List String)
  /-- An array with the given items, in reverse order. -/
  | array (items : List Value)
  /-- A table in braces. -/
  | table (entries : Draft) (path : List String)

/-- What a path of keys is for. -/
inductive KeyUse where
  | line
  | header (element : Bool)
  /-- An entry of a table in braces. -/
  | table (entries : Draft) (around : List Frame)

/-- What may come next. -/
inductive Reading where
  | atLine
  /-- The first bracket of a header has been read. -/
  | atHeader
  | inKey (purpose : KeyUse) (key : KeyPath)
  /-- The first one of two closing brackets of a header has been read. -/
  | atHeaderEnd (path : List String)
  | atValue (around : List Frame)
  | afterValue (value : Value) (around : List Frame)
  /-- The statement is complete, and the line must end. -/
  | atLineEnd (statement : Statement)

/-- Reads a part of a path of keys. -/
def KeyPath.read? (k : KeyPath) : Symbol → Option KeyPath
  | .word chars => k.word? [] chars
  | .text content => k.key? content
  | _ => none

/-- Reads the symbol after a path of keys. -/
def KeyUse.next? (purpose : KeyUse) (path : List String) (symbol : Symbol) : Option Reading :=
  match purpose, symbol with
  | .line, .equals => some (.atValue [.line path])
  | .header false, .bracketClose => some (.atLineEnd (.table path))
  | .header true, .bracketClose => some (.atHeaderEnd path)
  | .table entries around, .equals => some (.atValue (.table entries path :: around))
  | _, _ => none

/-- Opens an array or a table in braces. -/
def openWithin? (around : List Frame) (reading : Reading) : Option Reading :=
  if around.length ≤ KeyPath.limit then some reading else none

/-- Begins a value. -/
def beginValue? (around : List Frame) : Symbol → Option Reading
  | .word chars => (Value.ofWord? chars).map fun value => .afterValue value around
  | .text content | .block content => some (.afterValue (.string content) around)
  | .bracketOpen => openWithin? around (.atValue (.array [] :: around))
  | .braceOpen => openWithin? around (.inKey (.table {} around) {})
  | _ => none

/-- Reads a symbol where a value may stand. In an array there may also be a line break or the end. -/
def atValue? (around : List Frame) (symbol : Symbol) : Option Reading :=
  match around, symbol with
  | .array _ :: _, .lineEnd => some (.atValue around)
  | .array items :: outer, .bracketClose => some (.afterValue (.array items.reverse) outer)
  | _, _ => beginValue? around symbol

/-- Reads the symbol after a value. -/
def afterValue? (value : Value) (around : List Frame) (symbol : Symbol) : Option Reading :=
  match around, symbol with
  | .array _ :: _, .lineEnd => some (.afterValue value around)
  | .array items :: outer, .comma => some (.atValue (.array (value :: items) :: outer))
  | .array items :: outer, .bracketClose =>
    some (.afterValue (.array (value :: items).reverse) outer)
  | .table entries path :: outer, .comma =>
    (entries.insert? path value).map fun entries => .inKey (.table entries outer) {}
  | .table entries path :: outer, .braceClose =>
    (entries.insert? path value).map fun entries => .afterValue entries.finished outer
  | _, _ => none

/-- Reads a token: the statement that it completes, if it does so, and what may come next. -/
def Reading.step? (token : Token) : Reading → Option (Option Statement × Reading)
  | .atLine =>
    match token.symbol with
    | .lineEnd => some (none, .atLine)
    | .bracketOpen => some (none, .atHeader)
    | symbol => (KeyPath.read? {} symbol).map fun key => (none, .inKey .line key)
  | .atHeader =>
    if token.symbol = .bracketOpen && token.gap.isEmpty then
      some (none, .inKey (.header true) {})
    else
      (KeyPath.read? {} token.symbol).map fun key => (none, .inKey (.header false) key)
  | .inKey purpose key =>
    match key.read? token.symbol, purpose, token.symbol with
    | some key, _, _ => some (none, .inKey purpose key)
    | none, .table entries around, .braceClose =>
      if entries.entries.isEmpty && key.keys.isEmpty then
        some (none, .afterValue entries.finished around)
      else none
    | none, _, symbol => key.path?.bind fun path =>
      (purpose.next? path symbol).map fun reading => (none, reading)
  | .atHeaderEnd path =>
    if token.symbol = .bracketClose && token.gap.isEmpty then
      some (none, .atLineEnd (.element path))
    else none
  | .atValue around => (atValue? around token.symbol).map fun reading => (none, reading)
  | .afterValue value around =>
    match around, token.symbol with
    | [.line path], .lineEnd => some (some (.entry path value), .atLine)
    | _, symbol => (afterValue? value around symbol).map fun reading => (none, reading)
  | .atLineEnd statement =>
    match token.symbol with
    | .lineEnd => some (some statement, .atLine)
    | _ => none

/-- Reads tokens on, up to the end of a line. -/
def Document.readFrom? (d : Document) (reading : Reading) : List Token → Option Document
  | [] =>
    match reading with
    | .atLine => some d
    | _ => none
  | token :: tokens =>
    match reading.step? token with
    | none => none
    | some (none, reading) => d.readFrom? reading tokens
    | some (some statement, reading) =>
      match d.add? statement with
      | none => none
      | some d => d.readFrom? reading tokens

/-- Drops the mark of the byte order, which may stand at the start of a text. -/
def dropByteOrderMark : List Char → List Char
  | '\ufeff' :: s => s
  | s => s

/-- The table that a text writes. -/
def parse? (text : String) : Option Value := do
  let tokens ← tokens? (dropByteOrderMark text.toList)
  let document ← ({} : Document).readFrom? .atLine (joinMoments tokens)
  some document.root.finished

end Dramaturgy.Toml
