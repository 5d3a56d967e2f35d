import Dramaturgy.Text.Digit

/-!
# Quoted texts

A text stands between single or double quotes, one or three of them on each side. Three quotes may
hold line breaks, which are read as line feeds, and double quotes may hold escapes. There is one
reader for all of them; it goes through the text once, one character at a time. `readQuoted?_length`
says that it leaves no more than it was given.
-/

namespace Dramaturgy.Toml

/-! ## Classes of characters -/

/-- Whether a character is a blank within a line. -/
def isBlank (c : Char) : Bool :=
  c == ' ' || c == '\t'

/-- Whether a comment or a line of a quoted text may hold a character. -/
def isPrintable (c : Char) : Bool :=
  c == '\t' || (0x20 ≤ c.toNat && c.toNat ≠ 0x7F)

/-- Takes a line break off the start of a text. -/
def takeLineBreak? : List Char → Option (List Char)
  | '\n' :: s => some s
  | '\r' :: '\n' :: s => some s
  | _ => none

/-! ## Quoting -/

/-- The quotes around a text. -/
structure Quotes where
  mark : Char
  triple : Bool
deriving DecidableEq, Repr

/-- Whether a backslash escapes what follows it. -/
def Quotes.hasEscapes (q : Quotes) : Bool :=
  q.mark == '"'

/-- If a text starts with the closing quotes: how many quotes before these belong to what is
enclosed, and how many characters both are. -/
def Quotes.closing? (q : Quotes) (s : List Char) : Option (Nat × Nat) :=
  let count := (s.takeWhile (· == q.mark)).length
  if q.triple then
    if count < 3 then none else some (min (count - 3) 2, min count 5)
  else
    if count = 0 then none else some (0, 1)

/-- The character that a letter after a backslash stands for. -/
def escaped? (c : Char) : Option Char :=
  match c with
  | '"' | '\\' => some c
  | 'b' => some '\x08'
  | 't' => some '\t'
  | 'n' => some '\n'
  | 'f' => some '\x0c'
  | 'r' => some '\r'
  | _ => none

/-- How many digits follow a letter after a backslash. -/
def codeLength? (c : Char) : Option Nat :=
  match c with
  | 'u' => some 4
  | 'U' => some 8
  | _ => none

/-- What a quoted text is read as. -/
inductive Passage where
  | plain
  /-- The digits of a character's number, of which some are still to come. -/
  | code (left value : Nat)
  /-- The blanks and line breaks after a backslash that ends a line. -/
  | margin
deriving DecidableEq, Repr

/-- Reads a quoted text on up to its closing quotes, and what follows these. What has been read is in
reverse order. -/
def readQuoted? (q : Quotes) (text : List Char) (passage : Passage) :
    List Char → Option (String × List Char)
  | [] => none
  | c :: s =>
    match passage with
    | .code left value =>
      match Text.hexValue? c with
      | none => none
      | some digit =>
        if left > 1 then readQuoted? q text (.code (left - 1) (16 * value + digit)) s
        else
          match Text.charOfCode? (16 * value + digit) with
          | none => none
          | some d => readQuoted? q (d :: text) .plain s
    | passage =>
      if passage = .margin && (isBlank c || c == '\n') then readQuoted? q text .margin s
      else if passage = .margin && c == '\r' then
        if s.head? = some '\n' then readQuoted? q text .margin s else none
      else
        match q.closing? (c :: s) with
        | some (inside, all) =>
          some (String.ofList (List.replicate inside q.mark ++ text).reverse, (c :: s).drop all)
        | none =>
          if q.hasEscapes && c == '\\' then
            match s with
            | [] => none
            | d :: t =>
              if q.triple && (takeLineBreak? ((d :: t).dropWhile isBlank)).isSome then
                readQuoted? q text .margin (d :: t)
              else
                match escaped? d, codeLength? d with
                | some e, _ => readQuoted? q (e :: text) .plain t
                | none, some length => readQuoted? q text (.code length 0) t
                | none, none => none
          else if q.triple && c == '\n' then readQuoted? q ('\n' :: text) .plain s
          else if q.triple && c == '\r' then
            if s.head? = some '\n' then readQuoted? q text .plain s else none
          else if isPrintable c then readQuoted? q (c :: text) .plain s
          else none

/-- What follows a quoted text is no longer than the text with it. -/
theorem readQuoted?_length {q : Quotes} {text : List Char} {passage : Passage} {s rest : List Char}
    {r : String} (h : readQuoted? q text passage s = some (r, rest)) :
    rest.length ≤ s.length := by
  fun_induction readQuoted? q text passage s <;> grind

end Dramaturgy.Toml
