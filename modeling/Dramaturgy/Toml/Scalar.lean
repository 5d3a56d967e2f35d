import Dramaturgy.Text.Digit
import Dramaturgy.Toml.Value

/-!
# Numbers, truth values, dates and times

What an unquoted word stands for. A word is read as a whole, so that each rule is a condition on all
of its characters, and each recursion runs down the list of them.
-/

namespace Dramaturgy.Toml

/-- The values of the digits that a text consists of; a single underscore may stand between two. -/
def digits? (base : Nat) : List Char → Option (List Nat)
  | [] => none
  | [c] => (Text.digitValue? base c).map fun d => [d]
  | c :: '_' :: s => do some ((← Text.digitValue? base c) :: (← digits? base s))
  | c :: d :: s => do some ((← Text.digitValue? base c) :: (← digits? base (d :: s)))

/-- The digits of a decimal number, which has no needless zero in front. -/
def plainDigits? (s : List Char) : Option (List Nat) :=
  (digits? 10 s).filter fun digits => digits.length == 1 || digits.head? != some 0

/-- Takes the sign off a number: whether it is negative, and the rest. -/
def takeSign : List Char → Bool × List Char
  | '-' :: s => (true, s)
  | '+' :: s => (false, s)
  | s => (false, s)

/-! ## Integers -/

/-- Whether an integer fits into 64 bits with a sign. -/
def isWordSized (n : Int) : Bool :=
  decide (-0x8000000000000000 ≤ n) && decide (n < 0x8000000000000000)

/-- The integer that a word stands for. -/
def integer? (word : List Char) : Option Int :=
  let based (base : Nat) (s : List Char) : Option Int :=
    (digits? base s).map fun digits => Int.ofNat (Text.ofDigits base digits)
  let value? := match word with
    | '0' :: 'x' :: s => based 16 s
    | '0' :: 'o' :: s => based 8 s
    | '0' :: 'b' :: s => based 2 s
    | _ =>
      let (negative, s) := takeSign word
      (plainDigits? s).map fun digits =>
        let n := Int.ofNat (Text.ofDigits 10 digits)
        if negative then -n else n
  value?.filter isWordSized

/-! ## Fractions -/

/-- Splits a text at the first character of a kind. -/
def cutAt (p : Char → Bool) (s : List Char) : List Char × Option (List Char) :=
  match s.dropWhile fun c => !p c with
  | [] => (s, none)
  | _ :: rest => (s.takeWhile fun c => !p c, some rest)

/-- The largest decimal exponent of a number that is not taken to be infinite. -/
def largestExponent : Int := 308

/-- The number with the given digits and exponent. One that is too large is refused, unless it is
negative, when it is infinite; one that is too small is zero. -/
def decimal? (negative : Bool) (digits : List Nat) (exponent : Int) : Option Fraction :=
  let n := Text.ofDigits 10 digits
  let top := exponent + ((Nat.toDigits 10 n).length : Int) - 1
  if n = 0 || top < -324 then some (.decimal negative 0 0)
  else if top ≤ largestExponent then some (.decimal negative n exponent)
  else if negative then some (.infinity true)
  else none

/-- The exponent of a fraction. -/
def exponent? : Option (List Char) → Option Int
  | none => some 0
  | some s =>
    let (negative, s) := takeSign s
    (digits? 10 s).map fun digits =>
      let n := Int.ofNat (Text.ofDigits 10 digits)
      if negative then -n else n

/-- The fraction that a word stands for. -/
def fraction? (word : List Char) : Option Fraction :=
  let (negative, s) := takeSign word
  if s == "inf".toList then some (.infinity negative)
  else if s == "nan".toList then some .notANumber
  else
    let (mantissa, exponent) := cutAt (fun c => c == 'e' || c == 'E') s
    let (whole, places) := cutAt (· == '.') mantissa
    if places.isNone && exponent.isNone then none
    else do
      let whole ← plainDigits? whole
      let places ← match places with
        | none => some []
        | some s => digits? 10 s
      let exponent ← exponent? exponent
      decimal? negative (whole ++ places) (exponent - places.length)

/-! ## Dates and times -/

/-- The number with exactly the given count of digits at the start of a text, if it lies within the
given bounds. -/
def field? (count least most : Nat) (s : List Char) : Option (Nat × List Char) :=
  let digits := s.take count
  if digits.length = count && digits.all (·.isDigit) then
    let n := Text.ofDigits 10 (digits.map fun c => c.toNat - 0x30)
    if least ≤ n && n ≤ most then some (n, s.drop count) else none
  else none

/-- Takes a given character off the start of a text. -/
def after? (mark : Char) : List Char → Option (List Char)
  | [] => none
  | c :: s => if c = mark then some s else none

/-- How many days a month has. -/
def monthLength (year month : Nat) : Nat :=
  if month = 2 then
    if year % 4 = 0 && (year % 100 ≠ 0 || year % 400 = 0) then 29 else 28
  else if [4, 6, 9, 11].contains month then 30 else 31

/-- A number with at least the given count of digits. -/
def padded (count n : Nat) : List Char :=
  let digits := Nat.toDigits 10 n
  List.replicate (count - digits.length) '0' ++ digits

/-- Reads a date and writes it down. -/
def date? (s : List Char) : Option (List Char × List Char) := do
  let (year, s) ← field? 4 0 9999 s
  let (month, s) ← field? 2 1 12 (← after? '-' s)
  let (day, s) ← field? 2 1 31 (← after? '-' s)
  if day ≤ monthLength year month then
    some (padded 4 year ++ '-' :: padded 2 month ++ '-' :: padded 2 day, s)
  else none

/-- Drops the zeros at the end of a text. -/
def withoutFinalZeros (s : List Char) : List Char :=
  (s.reverse.dropWhile (· == '0')).reverse

/-- Reads the fraction of a second, if there is one. Nine digits of it count. -/
def secondFraction? : List Char → Option (List Char × List Char)
  | '.' :: s =>
    let digits := s.takeWhile (·.isDigit)
    if digits.isEmpty then none
    else
      let kept := withoutFinalZeros (digits.take 9)
      some (if kept.isEmpty then [] else '.' :: kept, s.dropWhile (·.isDigit))
  | s => some ([], s)

/-- Reads a time of day and writes it down. -/
def time? (s : List Char) : Option (List Char × List Char) := do
  let (hour, s) ← field? 2 0 23 s
  let (minute, s) ← field? 2 0 59 (← after? ':' s)
  let (second, s) ← field? 2 0 60 (← after? ':' s)
  let (rest, s) ← secondFraction? s
  some (padded 2 hour ++ ':' :: padded 2 minute ++ ':' :: padded 2 second ++ rest, s)

/-- Reads the distance from universal time that ends a word, if there is one. -/
def offset? (s : List Char) : Option (List Char) :=
  match s with
  | [] => some []
  | ['Z'] | ['z'] => some ['Z']
  | sign :: t =>
    if sign = '+' || sign = '-' then do
      let (hours, t) ← field? 2 0 23 t
      let (minutes, t) ← field? 2 0 59 (← after? ':' t)
      let sign := if hours = 0 && minutes = 0 then '+' else sign
      if t.isEmpty then some (sign :: padded 2 hours ++ ':' :: padded 2 minutes) else none
    else none

/-- Whether a character stands between a date and a time. -/
def isTimeMark (c : Char) : Bool :=
  c == 'T' || c == 't' || c == ' '

/-- The date or time that a word stands for. -/
def moment? (word : List Char) : Option (List Char) :=
  match date? word with
  | some (date, []) => some date
  | some (date, c :: s) =>
    if isTimeMark c then do
      let (time, s) ← time? s
      some (date ++ 'T' :: time ++ (← offset? s))
    else none
  | none =>
    match time? word with
    | some (time, []) => some time
    | _ => none

/-! ## Words -/

/-- The value that a word stands for. -/
def Value.ofWord? (word : List Char) : Option Value :=
  if word == "true".toList then some (.boolean true)
  else if word == "false".toList then some (.boolean false)
  else
    (integer? word).map .integer <|>
    (fraction? word).map .fraction <|>
    (moment? word).map fun s => .moment (String.ofList s)

end Dramaturgy.Toml
