import Dramaturgy.Text.Digit

/-!
# What a plain scalar denotes

A plain scalar may denote null, a truth value, an integer or a float instead of the text it is
written with. Integers have 128 bits; a decimal one beyond that is a float. A float is finite, so a
number that would be rounded to infinity is a text.
-/

namespace Dramaturgy.Yaml

/-- Whether a text denotes null. -/
def isNull (s : String) : Bool :=
  s.isEmpty || s == "~" || s == "null" || s == "Null" || s == "NULL"

/-- Whether a text denotes a truth value. -/
def isTruthValue (s : String) : Bool :=
  ["true", "True", "TRUE", "false", "False", "FALSE"].contains s

/-! ## Integers -/

/-- The value of a text of digits, at least one. -/
def digits? (base : Nat) (s : List Char) : Option Nat :=
  if s.isEmpty then none
  else (s.mapM (Text.digitValue? base)).map (Text.ofDigits base)

/-- The base and the digits of a number, by the letter after its first zero. -/
def splitBase : List Char → Nat × List Char
  | '0' :: 'x' :: s => (16, s)
  | '0' :: 'o' :: s => (8, s)
  | '0' :: 'b' :: s => (2, s)
  | s => (10, s)

/-- Whether a text is a zero and more digits, which is not a number. -/
def hasLeadingZero : List Char → Bool
  | '0' :: c :: s => (c :: s).all Char.isDigit
  | _ => false

/-- Whether a text without a sign is an integer no greater than `limit`. -/
def isInteger (limit : Nat) (s : List Char) : Bool :=
  let (base, digits) := splitBase s
  !hasLeadingZero s && (digits? base digits).any (· ≤ limit)

/-! ## Floats -/

/-- Whether `mantissa` times ten to the `exponent` is finite when it is rounded to a float: whether
it is less than the middle between the greatest float and the next power of two. The number of
digits, which is at most `size`, decides the clear cases. -/
def isFinite (mantissa size : Nat) (exponent : Int) : Bool :=
  let limit := Nat.pow 2 1024 - Nat.pow 2 970
  if mantissa = 0 then true
  else if exponent + size ≤ 308 then true
  else if exponent > 309 then false
  else if exponent ≥ 0 then mantissa * Nat.pow 10 exponent.toNat < limit
  else mantissa < limit * Nat.pow 10 (-exponent).toNat

/-- The exponent that a text writes: none if there is something else, and zero if it is empty. -/
def exponent? (s : List Char) : Option Int :=
  match s with
  | [] => some 0
  | c :: s =>
    if c != 'e' && c != 'E' then none
    else
      match s with
      | '-' :: s => (digits? 10 s).map fun n => -(n : Int)
      | '+' :: s => (digits? 10 s).map fun n => (n : Int)
      | s => (digits? 10 s).map fun n => (n : Int)

/-- Whether a text without a sign is a decimal number that is finite. -/
def isDecimal (s : List Char) : Bool :=
  let whole := s.takeWhile Char.isDigit
  let rest := s.dropWhile Char.isDigit
  let (fraction, rest) := match rest with
    | '.' :: t => (t.takeWhile Char.isDigit, t.dropWhile Char.isDigit)
    | _ => ([], rest)
  match digits? 10 (whole ++ fraction), exponent? rest with
  | some mantissa, some exponent =>
    isFinite mantissa (whole.length + fraction.length) (exponent - fraction.length)
  | _, _ => false

/-- Whether a text without a sign denotes infinity. -/
def isInfinity (s : List Char) : Bool :=
  s == ".inf".toList || s == ".Inf".toList || s == ".INF".toList

/-- Whether a text denotes what is not a number. -/
def isNotANumber (s : String) : Bool :=
  s == ".nan" || s == ".NaN" || s == ".NAN"

/-! ## Numbers with a sign -/

/-- Whether a text is an integer or a float. -/
def isNumeric (s : String) : Bool :=
  let unsigned := fun (limit : Nat) (t : List Char) =>
    isInteger limit t || (!hasLeadingZero t && isDecimal t) || isInfinity t
  isNotANumber s ||
    match s.toList with
    | '-' :: t => unsigned (Nat.pow 2 127) t
    | '+' :: t => unsigned (Nat.pow 2 128 - 1) t
    | t => unsigned (Nat.pow 2 128 - 1) t

/-- Whether a plain scalar denotes its own text. -/
def denotesText (s : String) : Bool :=
  !(isNull s || isTruthValue s || isNumeric s)

end Dramaturgy.Yaml
