import Dramaturgy.Json
import Dramaturgy.Text.Digit

/-!
# The tokens of a JSON text

A text is read one character at a time. `Scan` is what has been read of the token at hand, and each
character leads from one scan to the next and may complete tokens. Blanks between tokens are passed
over, and a word (a number, `null`, `true` or `false`) ends where a character cannot belong to it.
-/

namespace Dramaturgy.Json

/-- The tokens of a JSON text. -/
inductive Token where
  | arrayOpen
  | arrayClose
  | objectOpen
  | objectClose
  | colon
  | comma
  /-- A complete value: a string, a number, or one of the three words. -/
  | scalar (value : Json)
deriving Repr

/-- The tokens of one character. -/
def Token.ofChar? (c : Char) : Option Token :=
  match c with
  | '[' => some .arrayOpen
  | ']' => some .arrayClose
  | '\x7b' => some .objectOpen
  | '\x7d' => some .objectClose
  | ':' => some .colon
  | ',' => some .comma
  | _ => none

/-- What has been read of the token at hand. Characters are in reverse order. -/
inductive Scan where
  /-- No token is begun. -/
  | between
  /-- A word is begun. -/
  | word (letters : List Char)
  /-- A string is begun. -/
  | text (chars : List Char)
  /-- A backslash has been read in a string. -/
  | escape (chars : List Char)
  /-- Some digits of a code unit have been read; `high` is the first half of a pair, if this is to
  be the second. -/
  | code (chars : List Char) (high : Option Nat) (digits value : Nat)
  /-- The first half of a pair of code units has been read. -/
  | half (chars : List Char) (high : Nat)
  /-- The first half of a pair and a backslash have been read. -/
  | halfEscape (chars : List Char) (high : Nat)

/-- Whether a character can belong to a number or a word. -/
def isWordChar (c : Char) : Bool :=
  c.isAlphanum || c == '-' || c == '+' || c == '.'

/-- Whether a character may stand between two tokens. -/
def isSpace (c : Char) : Bool :=
  c == ' ' || c == '\n' || c == '\r' || c == '\t'

/-- Drops the digits at the start, of which there must be one. -/
def dropDigits? : List Char → Option (List Char)
  | c :: cs => if c.isDigit then some (cs.dropWhile (·.isDigit)) else none
  | [] => none

/-- Whether a word is a number: a sign, an integer without leading zeros, a fraction, an
exponent, all but the integer being optional. -/
def isNumber (word : List Char) : Bool :=
  let unsigned := match word with
    | '-' :: cs => cs
    | cs => cs
  let afterInteger := match unsigned with
    | '0' :: cs => some cs
    | cs => dropDigits? cs
  let afterFraction := afterInteger.bind fun cs => match cs with
    | '.' :: cs => dropDigits? cs
    | cs => some cs
  let afterExponent := afterFraction.bind fun cs => match cs with
    | 'e' :: '+' :: cs | 'e' :: '-' :: cs | 'E' :: '+' :: cs | 'E' :: '-' :: cs => dropDigits? cs
    | 'e' :: cs | 'E' :: cs => dropDigits? cs
    | cs => some cs
  afterExponent == some []

/-- The value of a word. -/
def ofWord? (letters : List Char) : Option Json :=
  let word := letters.reverse
  if word == "null".toList then some .null
  else if word == "true".toList then some (.bool true)
  else if word == "false".toList then some (.bool false)
  else if isNumber word then some (.number (String.ofList word))
  else none

/-- The character that a letter after a backslash stands for. -/
def escaped? (c : Char) : Option Char :=
  match c with
  | '"' | '\\' | '/' => some c
  | 'b' => some '\x08'
  | 'f' => some '\x0c'
  | 'n' => some '\n'
  | 'r' => some '\r'
  | 't' => some '\t'
  | _ => none

/-- Goes on in a string after a code unit. -/
def afterUnit? (chars : List Char) (high : Option Nat) (unit : Nat) : Option Scan :=
  let isHigh := 0xD800 ≤ unit && unit ≤ 0xDBFF
  let isLow := 0xDC00 ≤ unit && unit ≤ 0xDFFF
  match high with
  | none =>
    if isHigh then some (.half chars unit)
    else if isLow then none
    else some (.text (Char.ofNat unit :: chars))
  | some h =>
    if isLow then
      some (.text (Char.ofNat (0x10000 + (h - 0xD800) * 0x400 + (unit - 0xDC00)) :: chars))
    else none

/-- Begins a token, or passes over a blank. -/
def begin? (c : Char) : Option (List Token × Scan) :=
  if isSpace c then some ([], .between)
  else if c = '"' then some ([], .text [])
  else if isWordChar c then some ([], .word [c])
  else (Token.ofChar? c).map fun t => ([t], .between)

/-- Reads one character. -/
def Scan.step? (c : Char) : Scan → Option (List Token × Scan)
  | .between => begin? c
  | .word letters =>
    if isWordChar c then
      some ([], .word (c :: letters))
    else do
      let value ← ofWord? letters
      let (tokens, scan) ← begin? c
      some (.scalar value :: tokens, scan)
  | .text chars =>
    if c = '"' then some ([.scalar (.string (String.ofList chars.reverse))], .between)
    else if c = '\\' then some ([], .escape chars)
    else if c.toNat < 0x20 then none
    else some ([], .text (c :: chars))
  | .escape chars =>
    if c = 'u' then some ([], .code chars none 0 0)
    else (escaped? c).map fun d => ([], .text (d :: chars))
  | .code chars high digits value => do
    let d ← Text.hexValue? c
    if digits < 3 then
      some ([], .code chars high (digits + 1) (16 * value + d))
    else
      (afterUnit? chars high (16 * value + d)).map fun scan => ([], scan)
  | .half chars high => if c = '\\' then some ([], .halfEscape chars high) else none
  | .halfEscape chars high => if c = 'u' then some ([], .code chars (some high) 0 0) else none

/-- The tokens that are complete at the end of a text. -/
def Scan.finish? : Scan → Option (List Token)
  | .between => some []
  | .word letters => (ofWord? letters).map fun value => [.scalar value]
  | _ => none

/-- Reads a text on from a scan. Complete tokens are collected in reverse order. -/
def scanFrom? (done : List Token) (scan : Scan) : List Char → Option (List Token)
  | [] => scan.finish?.map fun last => (last.reverse ++ done).reverse
  | c :: s =>
    match scan.step? c with
    | none => none
    | some (tokens, scan) => scanFrom? (tokens.reverse ++ done) scan s

/-- The tokens of a text. -/
def tokens? (s : List Char) : Option (List Token) :=
  scanFrom? [] .between s

end Dramaturgy.Json
