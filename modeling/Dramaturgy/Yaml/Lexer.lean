import Dramaturgy.Yaml.Mark
import Dramaturgy.Yaml.Scalar

/-!
# From characters to tokens

A token that starts on a line may turn out to be the key of a mapping when a colon follows it later
on that line. Until then its place is kept as a `Candidate`, one for each level of flow collections,
and the tokens that make it a key are put in front of it once the colon is seen. Outside flow
collections the columns at which block collections start are kept on a stack, the innermost first.

Every call of `Lexer.next?` reads at least one character, or is the last one. So the number of
characters bounds the number of calls.
-/

namespace Dramaturgy.Yaml

/-- A token that may be the key of a mapping. -/
structure Candidate where
  place : Placed
  /-- How many tokens there are before it. -/
  before : Nat
  /-- Whether it stands where there must be a key. -/
  required : Bool

/-- What has been read of a text, and what is left of it. -/
structure Lexer where
  rest : List Placed
  tokens : Array Token := #[]
  /-- The columns of the block collections that are not yet closed. -/
  indents : List Nat := []
  /-- Whether a key may start here. -/
  keyAllowed : Bool := true
  candidate : Option Candidate := none
  /-- The candidates outside the flow collections that are not yet closed. -/
  outer : List (Option Candidate) := []
  /-- Whether the end of the text has been reached. -/
  finished : Bool := false

namespace Lexer

/-- Whether the place is in a flow collection. -/
def inFlow (l : Lexer) : Bool :=
  !l.outer.isEmpty

/-- The place of the next character. -/
def place (l : Lexer) : Placed :=
  l.rest.head?.getD default

/-- Adds a token. -/
def push (l : Lexer) (t : Token) : Lexer :=
  { l with tokens := l.tokens.push t }

/-- Drops characters. -/
def drop (l : Lexer) (n : Nat) : Lexer :=
  { l with rest := l.rest.drop n }

/-! ## Blanks and comments -/

/-- Drops blanks, comments and line breaks before the next token; a tab only where no key may start,
and the mark of the byte order only at the start of a line. After a line break outside flow collections
a key may start. -/
def skipSpace (inFlow : Bool) (keyAllowed : Bool) (inComment : Bool) :
    List Placed → Bool × List Placed
  | [] => (keyAllowed, [])
  | c :: s =>
    if isBreak c.char then skipSpace inFlow (keyAllowed || !inFlow) false s
    else if isEnd c.char then (keyAllowed, c :: s)
    else if inComment || c.char == '#' then skipSpace inFlow keyAllowed true s
    else if c.char == ' ' || (c.char == '\t' && (inFlow || !keyAllowed))
        || (c.char == '\ufeff' && c.column == 0) then
      skipSpace inFlow keyAllowed false s
    else (keyAllowed, c :: s)

/-- Goes to the next token. -/
def toToken (l : Lexer) : Lexer :=
  let (keyAllowed, rest) := skipSpace l.inFlow l.keyAllowed false l.rest
  { l with keyAllowed, rest }

/-! ## Keys -/

/-- A candidate, unless a key cannot reach from it to the given place: a key stays on one line and
has no more than 1024 characters. It is an error if there must be a key. -/
def Candidate.refresh? (here : Placed) : Option Candidate → Option (Option Candidate)
  | none => some none
  | some k =>
    if k.place.line < here.line || k.place.index + 1024 < here.index then
      if k.required then none else some none
    else
      some (some k)

/-- Gives up the candidates that cannot be keys any more. -/
def refresh? (l : Lexer) : Option Lexer := do
  let candidate ← Candidate.refresh? l.place l.candidate
  let outer ← l.outer.mapM (Candidate.refresh? l.place)
  some { l with candidate, outer }

/-- Gives up the candidate. It is an error if there must be a key. -/
def forget? (l : Lexer) : Option Lexer :=
  match l.candidate with
  | some k => if k.required then none else some { l with candidate := none }
  | none => some l

/-- Makes the next token a candidate, if a key may start here. -/
def mark? (l : Lexer) : Option Lexer :=
  if l.keyAllowed then do
    let l' ← l.forget?
    let required := !l.inFlow && l.indents.head? == some l.place.column
    some { l' with candidate := some { place := l.place, before := l.tokens.size, required } }
  else
    some l

/-! ## Indentation -/

/-- Closes the block collections that start to the right of a column, or all of them. -/
def closeBlocks (column : Option Nat) (tokens : Array Token) : List Nat → Array Token × List Nat
  | [] => (tokens, [])
  | indent :: indents =>
    if column.any (indent ≤ ·) then (tokens, indent :: indents)
    else closeBlocks column (tokens.push .blockEnd) indents

/-- Closes block collections. In a flow collection none is closed. -/
def dedent (l : Lexer) (column : Option Nat) : Lexer :=
  if l.inFlow then l
  else
    let (tokens, indents) := closeBlocks column l.tokens l.indents
    { l with tokens, indents }

/-- Opens a block collection at a column, if that is further in than the innermost one. Its token
goes before the token with the given number. -/
def indent (l : Lexer) (column : Nat) (before : Nat) (t : Token) : Lexer :=
  if l.inFlow || l.indents.head?.any (column ≤ ·) then l
  else
    { l with tokens := l.tokens.insertIdxIfInBounds before t, indents := column :: l.indents }

/-! ## Tokens -/

/-- Reads the start of a flow collection. -/
def openFlow? (l : Lexer) (t : Token) : Option Lexer := do
  let l ← l.mark?
  some ({ l with outer := l.candidate :: l.outer, candidate := none, keyAllowed := true }.push t
    |>.drop 1)

/-- Reads the end of a flow collection. -/
def closeFlow? (l : Lexer) (t : Token) : Option Lexer := do
  let l ← l.forget?
  let l := { l with keyAllowed := false }.push t |>.drop 1
  match l.outer with
  | [] => some l
  | candidate :: outer => some { l with candidate, outer }

/-- Reads the comma between two items of a flow collection. -/
def flowEntry? (l : Lexer) : Option Lexer := do
  let l ← l.forget?
  some ({ l with keyAllowed := true }.push .flowEntry |>.drop 1)

/-- Reads the mark of an item of a block sequence. -/
def blockEntry? (l : Lexer) : Option Lexer := do
  if !l.inFlow && !l.keyAllowed then none
  else
    let l ← (l.indent l.place.column l.tokens.size .blockSequenceStart).forget?
    some ({ l with keyAllowed := true }.push .blockEntry |>.drop 1)

/-- Reads the mark of a key. -/
def key? (l : Lexer) : Option Lexer := do
  if !l.inFlow && !l.keyAllowed then none
  else
    let l ← (l.indent l.place.column l.tokens.size .blockMappingStart).forget?
    some ({ l with keyAllowed := !l.inFlow }.push .key |>.drop 1)

/-- Reads the colon before a value, which makes the candidate a key. -/
def value? (l : Lexer) : Option Lexer :=
  match l.candidate with
  | some k =>
    let l := { l with tokens := l.tokens.insertIdxIfInBounds k.before .key }
    let l := l.indent k.place.column k.before .blockMappingStart
    some ({ l with candidate := none, keyAllowed := false }.push .value |>.drop 1)
  | none =>
    if !l.inFlow && !l.keyAllowed then none
    else
      let l := l.indent l.place.column l.tokens.size .blockMappingStart
      some ({ l with keyAllowed := !l.inFlow }.push .value |>.drop 1)

/-- Goes on after a token that leaves `rest`. -/
def accept (l : Lexer) (keyAllowed : Bool) (t : Token) (rest : List Placed) : Lexer :=
  { l.push t with keyAllowed, rest }

/-- Reads a token that starts with a mark and a name. -/
def named? (l : Lexer) (read : List Placed → Option (Token × List Placed)) : Option Lexer := do
  let l ← l.mark?
  let (t, rest) ← read l.rest
  some (l.accept false t rest)

/-- Reads a quoted scalar. -/
def quoted? (l : Lexer) (read : List Placed → Option (String × List Placed)) : Option Lexer := do
  let l ← l.mark?
  let (text, rest) ← read l.rest.tail
  some (l.accept false (.scalar false text) rest)

/-- Reads a block scalar. -/
def block? (l : Lexer) (literal : Bool) : Option Lexer := do
  let l ← l.forget?
  let (text, rest) ← readBlock? literal l.indents.head? l.rest.tail
  some (l.accept true (.scalar false text) rest)

/-- Reads a plain scalar. -/
def plain? (l : Lexer) : Option Lexer := do
  let l ← l.mark?
  let least := match l.indents.head? with
    | none => 0
    | some n => n + 1
  let scalar ← readPlain? l.inFlow least [] (.blanks []) l.rest
  some (l.accept scalar.broken (.scalar true scalar.text) scalar.rest)

/-- Reads what stands at the start of a line and ends all block collections. -/
def atMargin? (l : Lexer) (read : List Placed → Option (Token × List Placed)) : Option Lexer := do
  let l ← (l.dedent none).forget?
  let (t, rest) ← read l.rest
  some (l.accept false t rest)

/-- Reads the end of the text. -/
def finish? (l : Lexer) : Option Lexer := do
  let l ← (l.dedent none).forget?
  some { l with keyAllowed := false, finished := true }

/-- Whether a plain scalar starts with a character that has the given one after it. -/
def startsPlain (inFlow : Bool) (c next : Char) : Bool :=
  !(isSpace c || "-?:,[]\x7b\x7d#&*!|>'\"%@`".toList.contains c)
    || (c == '-' && !isBlank next)
    || (!inFlow && (c == '?' || c == ':') && !isSpace next)

/-- Reads the next token. -/
def next? (l : Lexer) : Option Lexer := do
  let l ← l.toToken.refresh?
  let l := l.dedent (some l.place.column)
  let c := l.place.char
  let next := peek l.rest.tail
  let spaceNext := l.inFlow || isSpace next
  if isEnd c then l.finish?
  else if l.place.column == 0 && c == '%' then l.atMargin? fun s => readDirective? s.tail
  else if isTriple '-' l.rest then l.atMargin? fun s => some (.documentStart, s.drop 3)
  else if isTriple '.' l.rest then l.atMargin? fun s => some (.documentEnd, s.drop 3)
  else if c == '[' then l.openFlow? .flowSequenceStart
  else if c == '\x7b' then l.openFlow? .flowMappingStart
  else if c == ']' then l.closeFlow? .flowSequenceEnd
  else if c == '\x7d' then l.closeFlow? .flowMappingEnd
  else if c == ',' then l.flowEntry?
  else if c == '-' && isSpace next then l.blockEntry?
  else if c == '?' && spaceNext then l.key?
  else if c == ':' && spaceNext then l.value?
  else if c == '*' then
    l.named? fun s => (readAnchor? s.tail).map fun (name, rest) => (.alias name, rest)
  else if c == '&' then
    l.named? fun s => (readAnchor? s.tail).map fun (name, rest) => (.anchor name, rest)
  else if c == '!' then
    l.named? fun s => (readTag? l.inFlow s).map fun (tag, rest) => (.tag tag, rest)
  else if c == '|' && !l.inFlow then l.block? true
  else if c == '>' && !l.inFlow then l.block? false
  else if c == '\x27' then l.quoted? (readSingle? [] (.blanks []))
  else if c == '"' then l.quoted? (readDouble? [] (.blanks []) none)
  else if startsPlain l.inFlow c next then l.plain?
  else none

/-- Reads at most `calls` tokens, up to the end of the text. -/
def run? (l : Lexer) : Nat → Option (Array Token)
  | 0 => none
  | calls + 1 =>
    match l.next? with
    | none => none
    | some l => if l.finished then some l.tokens else l.run? calls

end Lexer

/-- The tokens of a text. -/
def tokens? (text : String) : Option (List Token) := do
  let placed ← place? text
  (← ({ rest := placed } : Lexer).run? placed.length).toList

end Dramaturgy.Yaml
