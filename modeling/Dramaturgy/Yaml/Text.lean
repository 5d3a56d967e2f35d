/-!
# Characters of a YAML text

A text is read as a list of characters, each with its place in the text, and an end mark after the
last one. The end mark is the NUL character, which no text may hold. All line breaks but the line and
the paragraph separator are read as line feeds; a carriage return and a line feed are one break.
-/

namespace Dramaturgy.Yaml

/-- A character and where it stands. -/
structure Placed where
  char : Char
  line : Nat
  column : Nat
  index : Nat
deriving Inhabited, Repr

/-! ## Classes of characters -/

/-- Whether a text may hold a character. -/
def isAllowed (c : Char) : Bool :=
  let n := c.toNat
  n == 0x09 || n == 0x0A || n == 0x0D || (0x20 ≤ n && n ≤ 0x7E) || n == 0x85
    || (0xA0 ≤ n && n ≤ 0xFFFD) || 0x10000 ≤ n

/-- Whether a character is the end mark. -/
def isEnd (c : Char) : Bool :=
  c == '\x00'

/-- Whether a character is a blank within a line. -/
def isBlank (c : Char) : Bool :=
  c == ' ' || c == '\t'

/-- Whether a character is a line break. -/
def isBreak (c : Char) : Bool :=
  c == '\n' || c == '\u2028' || c == '\u2029'

/-- Whether a line ends at a character. -/
def isLineEnd (c : Char) : Bool :=
  isBreak c || isEnd c

/-- Whether a word ends at a character. -/
def isSpace (c : Char) : Bool :=
  isBlank c || isLineEnd c

/-- Whether a character can belong to the name of an anchor, a tag handle or a directive. -/
def isNameChar (c : Char) : Bool :=
  c.isAlphanum || c == '-' || c == '_'

/-! ## Places -/

/-- The text read so far, in reverse order, and the place of what comes next. -/
structure Placing where
  done : List Placed := []
  line : Nat := 0
  column : Nat := 0
  index : Nat := 0
  /-- Whether the last character was a carriage return. -/
  afterReturn : Bool := false

/-- Gives a character its place. -/
def Placing.push (p : Placing) (c : Char) : Placing :=
  let placed : Placed := { char := c, line := p.line, column := p.column, index := p.index }
  if isBreak c then
    { done := placed :: p.done, line := p.line + 1, index := p.index + 1 }
  else
    { done := placed :: p.done, line := p.line, column := p.column + 1, index := p.index + 1 }

/-- Reads a character. -/
def Placing.read (p : Placing) (c : Char) : Placing :=
  if c = '\r' then
    { p.push '\n' with afterReturn := true }
  else if c = '\n' && p.afterReturn then
    { p with afterReturn := false }
  else if c = '\u0085' then
    p.push '\n'
  else
    p.push c

/-- The characters of a text with their places, and the end mark; none if there is a character that
a text may not hold. -/
def place? (text : String) : Option (List Placed) :=
  let chars := text.toList
  if chars.all isAllowed then
    some ((chars.foldl Placing.read {}).push '\x00').done.reverse
  else
    none

/-! ## Looking ahead -/

/-- The first character, or the end mark. -/
def peek (s : List Placed) : Char :=
  match s with
  | [] => '\x00'
  | c :: _ => c.char

/-- Drops blanks. -/
def skipBlanks (s : List Placed) : List Placed :=
  s.dropWhile fun c => isBlank c.char

/-- Drops the rest of a line up to its end. -/
def skipLine (s : List Placed) : List Placed :=
  s.dropWhile fun c => !isLineEnd c.char

/-- Drops blanks and a comment, after which the line must end, and the line break. -/
def skipRestOfLine? (s : List Placed) : Option (List Placed) :=
  let s := skipBlanks s
  let s := if peek s = '#' then skipLine s else s
  match s with
  | [] => none
  | c :: t => if isBreak c.char then some t else if isEnd c.char then some s else none

/-- Whether a line starts with three times the given character and then a space. -/
def isTriple (mark : Char) (s : List Placed) : Bool :=
  match s with
  | a :: b :: c :: d :: _ =>
    a.column == 0 && a.char == mark && b.char == mark && c.char == mark && isSpace d.char
  | _ => false

/-- Whether a line starts with the mark of the start or the end of a document. -/
def isDocumentMark (s : List Placed) : Bool :=
  isTriple '-' s || isTriple '.' s

end Dramaturgy.Yaml
