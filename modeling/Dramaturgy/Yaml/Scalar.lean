import Dramaturgy.Text.Digit
import Dramaturgy.Yaml.Text

/-!
# Scalars

The text of a scalar in each of its styles: plain, in single or double quotes, and as a literal or
folded block. Each reader goes through the text once, one character at a time, so that every
recursion is on the list of characters. What is collected is in reverse order.
-/

namespace Dramaturgy.Yaml

/-! ## Folding -/

/-- What stands between two words of a scalar: blanks within a line, or line breaks, the first of
which may be escaped. -/
inductive Gap where
  | blanks (chars : List Char)
  | breaks (first : Option Char) (more : List Char)

/-- Whether nothing stands between. -/
def Gap.isEmpty : Gap → Bool
  | .blanks chars => chars.isEmpty
  | .breaks .. => false

/-- Whether there is a line break. -/
def Gap.hasBreak : Gap → Bool
  | .blanks _ => false
  | .breaks .. => true

/-- A gap as text in reverse order: a single line feed becomes a blank, and of several the first is
dropped. -/
def Gap.folded : Gap → List Char
  | .blanks chars => chars
  | .breaks (some '\n') [] => [' ']
  | .breaks (some '\n') more => more
  | .breaks (some c) more => more ++ [c]
  | .breaks none more => more

/-- Adds a blank. Blanks at the start of a line do not count. -/
def Gap.addBlank (c : Char) : Gap → Gap
  | .blanks chars => .blanks (c :: chars)
  | gap => gap

/-- Adds a line break. Blanks at the end of a line do not count. -/
def Gap.addBreak (c : Char) : Gap → Gap
  | .blanks _ => .breaks (some c) []
  | .breaks first more => .breaks first (c :: more)

/-! ## Plain scalars -/

/-- A plain scalar, what follows it, and whether there was a line break before that. -/
structure PlainScalar where
  text : String
  rest : List Placed
  broken : Bool

/-- Whether a character ends a plain scalar in a flow collection. -/
def isFlowMark (c : Char) : Bool :=
  c == ',' || c == '[' || c == ']' || c == '\x7b' || c == '\x7d'

/-- Reads a plain scalar on. Outside flow collections its lines must be indented by `indent`. -/
def readPlain? (inFlow : Bool) (indent : Nat) (text : List Char) (gap : Gap) :
    List Placed → Option PlainScalar
  | [] => none
  | c :: s =>
    let stop : PlainScalar :=
      { text := String.ofList text.reverse, rest := c :: s, broken := gap.hasBreak }
    if isBlank c.char then
      if gap.hasBreak && c.column < indent && c.char == '\t' then none
      else readPlain? inFlow indent text (gap.addBlank c.char) s
    else if isBreak c.char then
      readPlain? inFlow indent text (gap.addBreak c.char) s
    else if isEnd c.char then
      some stop
    else if !gap.isEmpty
        && ((!inFlow && c.column < indent) || isDocumentMark (c :: s) || c.char == '#') then
      some stop
    else if inFlow && c.char == ':' && (isFlowMark (peek s) || peek s == '?') then
      none
    else if (c.char == ':' && isSpace (peek s)) || (inFlow && isFlowMark c.char) then
      some stop
    else
      readPlain? inFlow indent (c.char :: gap.folded ++ text) (.blanks []) s

/-! ## Quoted scalars -/

/-- The character that a letter after a backslash stands for. -/
def escaped? (c : Char) : Option Char :=
  match c with
  | '0' => some '\x00'
  | 'a' => some '\x07'
  | 'b' => some '\x08'
  | 't' | '\t' => some '\t'
  | 'n' => some '\n'
  | 'v' => some '\x0b'
  | 'f' => some '\x0c'
  | 'r' => some '\r'
  | 'e' => some '\x1b'
  | ' ' | '"' | '/' | '\\' => some c
  | 'N' => some '\u0085'
  | '_' => some '\u00a0'
  | 'L' => some '\u2028'
  | 'P' => some '\u2029'
  | _ => none

/-- How many digits follow a letter after a backslash. -/
def codeLength? (c : Char) : Option Nat :=
  match c with
  | 'x' => some 2
  | 'u' => some 4
  | 'U' => some 8
  | _ => none

/-- Reads a scalar in single quotes on, after the opening quote. -/
def readSingle? (text : List Char) (gap : Gap) : List Placed → Option (String × List Placed)
  | [] => none
  | c :: s =>
    if isBlank c.char then readSingle? text (gap.addBlank c.char) s
    else if isBreak c.char then readSingle? text (gap.addBreak c.char) s
    else if isEnd c.char || isDocumentMark (c :: s) then none
    else if c.char = '\x27' then
      match s with
      | [] => none
      | d :: t =>
        if d.char = '\x27' then readSingle? (d.char :: gap.folded ++ text) (.blanks []) t
        else some (String.ofList (gap.folded ++ text).reverse, d :: t)
    else readSingle? (c.char :: gap.folded ++ text) (.blanks []) s

/-- Reads a scalar in double quotes on, after the opening quote. `code` is how many digits of a
character's number are still to come, and their value so far. -/
def readDouble? (text : List Char) (gap : Gap) (code : Option (Nat × Nat)) :
    List Placed → Option (String × List Placed)
  | [] => none
  | c :: s =>
    match code with
    | some (left, value) =>
      match Text.hexValue? c.char with
      | none => none
      | some digit =>
        if left > 1 then
          readDouble? text gap (some (left - 1, 16 * value + digit)) s
        else
          match Text.charOfCode? (16 * value + digit) with
          | none => none
          | some d => readDouble? (d :: text) gap none s
    | none =>
      if isBlank c.char then readDouble? text (gap.addBlank c.char) none s
      else if isBreak c.char then readDouble? text (gap.addBreak c.char) none s
      else if isEnd c.char || isDocumentMark (c :: s) then none
      else if c.char = '"' then some (String.ofList (gap.folded ++ text).reverse, s)
      else if c.char = '\\' then
        let text := gap.folded ++ text
        match s with
        | [] => none
        | d :: t =>
          if isBreak d.char then
            readDouble? text (.breaks none []) none t
          else
            match escaped? d.char, codeLength? d.char with
            | some e, _ => readDouble? (e :: text) (.blanks []) none t
            | none, some length => readDouble? text (.blanks []) (some (length, 0)) t
            | none, none => none
      else readDouble? (c.char :: gap.folded ++ text) (.blanks []) none s

/-! ## Block scalars -/

/-- What becomes of the line breaks at the end of a block scalar. -/
inductive Chomping where
  | strip
  | clip
  | keep
deriving DecidableEq

/-- How a block scalar is written. -/
structure BlockStyle where
  literal : Bool
  chomping : Chomping := .clip
  /-- The indentation relative to what is around, if it is given. -/
  indentation : Option Nat := none

/-- The chomping that a character asks for. -/
def chomping? (c : Char) : Option Chomping :=
  match c with
  | '+' => some .keep
  | '-' => some .strip
  | _ => none

/-- Reads the digit of an indentation, which must not be zero. -/
def readIndentation? (style : BlockStyle) (s : List Placed) :
    Option (BlockStyle × List Placed) :=
  match s with
  | [] => none
  | c :: t =>
    if c.char = '0' then none
    else if c.char.isDigit then some ({ style with indentation := some (c.char.toNat - 0x30) }, t)
    else some (style, s)

/-- Reads the sign of a chomping. -/
def readChomping (style : BlockStyle) (s : List Placed) : BlockStyle × List Placed :=
  match chomping? (peek s) with
  | some chomping => ({ style with chomping }, s.tail)
  | none => (style, s)

/-- Reads the signs after the mark of a block scalar, which come in either order. -/
def readBlockStyle? (literal : Bool) (s : List Placed) : Option (BlockStyle × List Placed) :=
  let style : BlockStyle := { literal }
  if (chomping? (peek s)).isSome then
    let (style, s) := readChomping style s
    readIndentation? style s
  else do
    let (style, s) ← readIndentation? style s
    some (readChomping style s)

/-- The empty lines before the first line of a block scalar, and how far the widest of these lines
is indented. -/
structure LeadingLines where
  breaks : List Char
  width : Nat
  rest : List Placed

/-- Reads the empty lines before the first line, up to `indent` blanks in if that is known. -/
def readLeadingLines? (indent : Option Nat) (breaks : List Char) (width : Nat) :
    List Placed → Option LeadingLines
  | [] => none
  | c :: s =>
    let within := match indent with
      | none => true
      | some n => c.column < n
    if within && c.char == ' ' then
      readLeadingLines? indent breaks width s
    else
      let width := max width c.column
      if within && c.char == '\t' then none
      else if isBreak c.char then readLeadingLines? indent (c.char :: breaks) width s
      else some { breaks, width, rest := c :: s }

/-- What has been read of a block scalar. -/
structure BlockText where
  text : List Char := []
  /-- The line break after the last line with text, and the empty lines after that. -/
  lastBreak : List Char := []
  emptyLines : List Char := []
  /-- Whether the last line with text starts with a blank. -/
  afterBlank : Bool := false
  /-- Whether a line is being read. -/
  inLine : Bool := false

/-- Begins a line with text. Between two lines that do not start with a blank, a folded scalar has a
blank in place of a single line break. -/
def BlockText.beginLine (style : BlockStyle) (b : BlockText) (c : Char) : BlockText :=
  let folds := !style.literal && b.lastBreak == ['\n'] && !b.afterBlank && !isBlank c
  let joint := if folds then (if b.emptyLines.isEmpty then [' '] else []) else b.lastBreak
  { text := c :: b.emptyLines ++ joint ++ b.text, afterBlank := isBlank c, inLine := true }

/-- The text of a block scalar at its end. -/
def BlockText.finish (style : BlockStyle) (b : BlockText) : String :=
  String.ofList (match style.chomping with
    | .strip => b.text
    | .clip => b.lastBreak ++ b.text
    | .keep => b.emptyLines ++ b.lastBreak ++ b.text).reverse

/-- Reads the lines of a block scalar, which are indented by `indent`. -/
def readBlockLines? (style : BlockStyle) (indent : Nat) (b : BlockText) :
    List Placed → Option (String × List Placed)
  | [] => none
  | c :: s =>
    if b.inLine then
      if isEnd c.char then some (b.finish style, c :: s)
      else if isBreak c.char then
        readBlockLines? style indent { b with lastBreak := [c.char], inLine := false } s
      else readBlockLines? style indent { b with text := c.char :: b.text } s
    else if c.column < indent && c.char == ' ' then readBlockLines? style indent b s
    else if c.column < indent && c.char == '\t' then none
    else if isBreak c.char then
      readBlockLines? style indent { b with emptyLines := c.char :: b.emptyLines } s
    else if c.column = indent && !isEnd c.char then
      readBlockLines? style indent (b.beginLine style c.char) s
    else some (b.finish style, c :: s)

/-- Reads a block scalar after its mark. `outer` is the indentation of what is around it. -/
def readBlock? (literal : Bool) (outer : Option Nat) (s : List Placed) :
    Option (String × List Placed) := do
  let (style, s) ← readBlockStyle? literal s
  let s ← skipRestOfLine? s
  let given := style.indentation.map fun n => outer.getD 0 + n
  let leading ← readLeadingLines? given [] 0 s
  let least := match outer with
    | none => 1
    | some n => n + 1
  let indent := given.getD (max leading.width least)
  readBlockLines? style indent { emptyLines := leading.breaks } leading.rest

end Dramaturgy.Yaml
