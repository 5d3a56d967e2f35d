import Dramaturgy.Toml.Quoted

/-!
# The tokens of a TOML text

A text is cut into tokens without regard to whether they stand in a key or in a value: a run of the
characters that keys, numbers and dates are made of is one word. Each token remembers the blanks in
front of it. Comments are dropped. The loop is bounded by the length of the rest, which every token
makes shorter.
-/

namespace Dramaturgy.Toml

/-- What a token is, its blanks aside. -/
inductive Symbol where
  /-- A run of the characters of keys, numbers and dates. -/
  | word (chars : List Char)
  /-- A text between quotes that stand singly. -/
  | text (content : String)
  /-- A text between three quotes on each side. -/
  | block (content : String)
  | equals
  | comma
  | bracketOpen
  | bracketClose
  | braceOpen
  | braceClose
  /-- A line break, or the end of the text. -/
  | lineEnd
deriving DecidableEq, Repr

/-- A symbol and the blanks in front of it. -/
structure Token where
  gap : List Char := []
  symbol : Symbol
deriving DecidableEq, Repr

/-- Whether a character can belong to a word. -/
def isWordChar (c : Char) : Bool :=
  c.isAlphanum || c == '_' || c == '-' || c == '+' || c == '.' || c == ':'

/-- The symbols of one character. -/
def Symbol.ofChar? (c : Char) : Option Symbol :=
  match c with
  | '=' => some .equals
  | ',' => some .comma
  | '[' => some .bracketOpen
  | ']' => some .bracketClose
  | '\x7b' => some .braceOpen
  | '\x7d' => some .braceClose
  | '\n' => some .lineEnd
  | _ => none

/-- Whether a text starts with the given character twice. -/
def startsTwice (c : Char) (s : List Char) : Bool :=
  s.take 2 == [c, c]

/-- Reads a quoted text after its first quote. A line break right after three quotes does not
count. -/
def readText? (mark : Char) (s : List Char) : Option (Symbol × List Char) :=
  if startsTwice mark s then
    let body := s.drop 2
    (readQuoted? ⟨mark, true⟩ [] .plain ((takeLineBreak? body).getD body)).map
      fun (content, rest) => (.block content, rest)
  else
    (readQuoted? ⟨mark, false⟩ [] .plain s).map fun (content, rest) => (.text content, rest)

/-- Reads a symbol that starts with the given character. -/
def readSymbol? (c : Char) (s : List Char) : Option (Symbol × List Char) :=
  if c = '"' || c = '\x27' then readText? c s
  else if isWordChar c then some (.word (c :: s.takeWhile isWordChar), s.dropWhile isWordChar)
  else if c = '\r' then (takeLineBreak? (c :: s)).map fun rest => (.lineEnd, rest)
  else (Symbol.ofChar? c).map fun symbol => (symbol, s)

theorem length_dropWhile_le {α : Type} (p : α → Bool) (s : List α) :
    (s.dropWhile p).length ≤ s.length :=
  (s.dropWhile_sublist p).length_le

theorem takeLineBreak?_length {s rest : List Char} (h : takeLineBreak? s = some rest) :
    rest.length < s.length := by
  fun_cases takeLineBreak? s <;> grind [takeLineBreak?]

/-- What follows a symbol is shorter than the text with it. -/
theorem readSymbol?_length {c : Char} {s rest : List Char} {symbol : Symbol}
    (h : readSymbol? c s = some (symbol, rest)) : rest.length ≤ s.length := by
  unfold readSymbol? at h
  split at h
  · unfold readText? at h
    split at h
    · obtain ⟨⟨content, rest'⟩, hr, heq⟩ := Option.map_eq_some_iff.1 h
      have := readQuoted?_length hr
      cases hb : takeLineBreak? (s.drop 2) with
      | none => grind
      | some body => have := takeLineBreak?_length hb; grind
    · obtain ⟨⟨content, rest'⟩, hr, heq⟩ := Option.map_eq_some_iff.1 h
      have := readQuoted?_length hr
      grind
  · split at h
    · have := length_dropWhile_le isWordChar s
      grind
    · split at h
      · obtain ⟨rest', hr, heq⟩ := Option.map_eq_some_iff.1 h
        have := takeLineBreak?_length hr
        grind
      · obtain ⟨_, _, heq⟩ := Option.map_eq_some_iff.1 h
        grind

/-- Drops a comment up to the end of its line. -/
def dropComment : List Char → List Char
  | '#' :: s => s.dropWhile isPrintable
  | s => s

theorem dropComment_length (s : List Char) : (dropComment s).length ≤ s.length := by
  have := length_dropWhile_le isPrintable s.tail
  fun_cases dropComment s <;> grind [dropComment]

/-- The tokens of a text, the last of which is the end of its last line. -/
def tokens? (s : List Char) : Option (List Token) :=
  let gap := s.takeWhile isBlank
  match hs : dropComment (s.dropWhile isBlank) with
  | [] => some [{ gap, symbol := .lineEnd }]
  | c :: t =>
    match hr : readSymbol? c t with
    | none => none
    | some (symbol, rest) =>
      have : rest.length < s.length := by
        have h₁ := readSymbol?_length hr
        have h₂ := dropComment_length (s.dropWhile isBlank)
        have h₃ := length_dropWhile_le isBlank s
        rw [hs] at h₂
        simp only [List.length_cons] at h₂
        omega
      (tokens? rest).map fun tokens => { gap, symbol } :: tokens
termination_by s.length

/-! ## Dates and times -/

/-- Whether a word has the form of a date. -/
def isDateLike (word : List Char) : Bool :=
  word.length == 10 && (word.drop 4).head? == some '-'

/-- Whether a word begins like a time of day. -/
def isTimeLike (word : List Char) : Bool :=
  (word.drop 2).head? == some ':'

/-- Joins dates to the times that stand one space after them. -/
def joinMoments : List Token → List Token
  | ⟨gap, .word date⟩ :: ⟨[' '], .word time⟩ :: tokens =>
    if isDateLike date && isTimeLike time then
      ⟨gap, .word (date ++ ' ' :: time)⟩ :: joinMoments tokens
    else ⟨gap, .word date⟩ :: joinMoments (⟨[' '], .word time⟩ :: tokens)
  | token :: tokens => token :: joinMoments tokens
  | [] => []

end Dramaturgy.Toml
