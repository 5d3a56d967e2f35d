import Dramaturgy.Text.Digit
import Dramaturgy.Yaml.Text
import Dramaturgy.Yaml.Token

/-!
# Anchors, tags and directives

The tokens that begin with a mark and a name: `&name` and `*name`, the forms of a tag, and the two
directives that may stand before a document.
-/

namespace Dramaturgy.Yaml

/-- The name at the start of a text, and what follows it. -/
def readName (s : List Placed) : String × List Placed :=
  let isName := fun c : Placed => isNameChar c.char
  (String.ofList ((s.takeWhile isName).map (·.char)), s.dropWhile isName)

/-- Whether the name of an anchor may end at a character. -/
def endsAnchor (c : Char) : Bool :=
  isSpace c || "?:,]\x7d%@`".toList.contains c

/-- Reads the name of an anchor or an alias, after its mark. -/
def readAnchor? (s : List Placed) : Option (String × List Placed) :=
  let (name, rest) := readName s
  if name.isEmpty || !endsAnchor (peek rest) then none else some (name, rest)

/-! ## Tags -/

/-- Whether a character can stand in a tag; in a verbatim one some flow marks can too. -/
def isTagChar (verbatim : Bool) (c : Char) : Bool :=
  isNameChar c || ";/?:@&=+$.%!~*'()".toList.contains c
    || (verbatim && (c == ',' || c == '[' || c == ']'))

/-- The number of octets of a character, by the first of them. -/
def octetCount? (n : Nat) : Option Nat :=
  if n < 0x80 then some 1
  else if 0xC0 ≤ n && n < 0xE0 then some 2
  else if 0xE0 ≤ n && n < 0xF0 then some 3
  else if 0xF0 ≤ n && n < 0xF8 then some 4
  else none

/-- An escaped character of which some octets have been read. -/
structure Octets where
  left : Nat
  value : Nat

/-- Adds an octet, which begins a character if none is begun. -/
def addOctet? (begun : Option Octets) (n : Nat) : Option Octets :=
  match begun with
  | none => do
    let count ← octetCount? n
    let value := match count with
      | 1 => n
      | 2 => n % 0x20
      | 3 => n % 0x10
      | _ => n % 0x08
    some { left := count - 1, value }
  | some o =>
    if 0x80 ≤ n && n < 0xC0 then
      some { left := o.left - 1, value := 0x40 * o.value + n % 0x40 }
    else
      none

/-- Decodes the escaped characters of a tag, given its characters up to the first that cannot stand
in a tag. -/
def decodeTag? (begun : Option Octets) (decoded : List Char) : List Char → Option (List Char)
  | [] => if begun.isNone then some decoded.reverse else none
  | '%' :: a :: b :: s => do
    let high ← Text.hexValue? a
    let low ← Text.hexValue? b
    let o ← addOctet? begun (16 * high + low)
    if o.left = 0 then decodeTag? none (Char.ofNat o.value :: decoded) s
    else decodeTag? (some o) decoded s
  | c :: s => if begun.isNone && c != '%' then decodeTag? none (c :: decoded) s else none

/-- Reads the part of a tag that follows its handle, or the whole of a verbatim one. -/
def readTagText? (verbatim : Bool) (s : List Placed) : Option (List Char × List Placed) := do
  let isTag := fun c : Placed => isTagChar verbatim c.char
  let text ← decodeTag? none [] ((s.takeWhile isTag).map (·.char))
  some (text, s.dropWhile isTag)

/-- Reads a handle: a mark, a name, and a second mark if there is one. The flag says whether there
is. -/
def readHandle? (s : List Placed) : Option (String × Bool × List Placed) :=
  match s with
  | [] => none
  | c :: s =>
    if c.char != '!' then none
    else
      let (name, rest) := readName s
      if peek rest = '!' then some ("!" ++ name ++ "!", true, rest.tail)
      else some ("!" ++ name, false, rest)

/-- Reads the tag at the start of a text. -/
def readTagForm? (s : List Placed) : Option (WrittenTag × List Placed) :=
  if peek s.tail = '<' then do
    let (text, rest) ← readTagText? true (s.drop 2)
    if text.isEmpty || peek rest != '>' then none
    else some ({ handle := "", suffix := String.ofList text }, rest.tail)
  else do
    let (handle, closed, rest) ← readHandle? s
    let (text, rest) ← readTagText? false rest
    if closed then
      if text.isEmpty then none else some ({ handle, suffix := String.ofList text }, rest)
    else
      let suffix := String.ofList (handle.toList.tail ++ text)
      if suffix.isEmpty then some ({ handle := "", suffix := "!" }, rest)
      else some ({ handle := "!", suffix }, rest)

/-- Reads a tag, after which a space must follow, or a comma in a flow collection. -/
def readTag? (inFlow : Bool) (s : List Placed) : Option (WrittenTag × List Placed) := do
  let (tag, rest) ← readTagForm? s
  if isSpace (peek rest) || (inFlow && peek rest == ',') then some (tag, rest) else none

/-! ## Directives -/

/-- Reads a number of at most nine digits. -/
def readNumber? (s : List Placed) : Option (Nat × List Placed) :=
  let isDigit := fun c : Placed => c.char.isDigit
  let digits := s.takeWhile isDigit
  if digits.isEmpty || digits.length > 9 then none
  else some (digits.foldl (fun n c => 10 * n + (c.char.toNat - 0x30)) 0, s.dropWhile isDigit)

/-- Reads the version that a directive gives. -/
def readVersion? (s : List Placed) : Option (Token × List Placed) := do
  let (major, rest) ← readNumber? (skipBlanks s)
  if peek rest = '.' then
    let (minor, rest) ← readNumber? rest.tail
    some (.versionDirective major minor, rest)
  else
    none

/-- Reads the handle and the meaning that a directive gives to it. -/
def readTagMeaning? (s : List Placed) : Option (Token × List Placed) := do
  let (handle, closed, rest) ← readHandle? (skipBlanks s)
  if (closed || handle == "!") && isBlank (peek rest) then
    let (text, rest) ← readTagText? true (skipBlanks rest)
    if text.isEmpty || !isSpace (peek rest) then none
    else some (.tagDirective handle (String.ofList text), rest)
  else
    none

/-- Reads a directive after its mark, to the end of its line. -/
def readDirective? (s : List Placed) : Option (Token × List Placed) := do
  let (name, rest) := readName s
  if !isSpace (peek rest) then none
  else
    let (token, rest) ← match name with
      | "YAML" => readVersion? rest
      | "TAG" => readTagMeaning? rest
      | _ => none
    some (token, ← skipRestOfLine? rest)

end Dramaturgy.Yaml
