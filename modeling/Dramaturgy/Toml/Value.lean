/-!
# TOML values

A decimal fraction is kept as the digits and the exponent that are written, and a date or a time as
text, because nothing here computes with them.
-/

namespace Dramaturgy.Toml

/-- A number that is written with a fraction or an exponent, or in words. -/
inductive Fraction where
  /-- The digits times ten to the power of the exponent. -/
  | decimal (negative : Bool) (digits : Nat) (exponent : Int)
  | infinity (negative : Bool)
  | notANumber
deriving DecidableEq, Repr

/-- A TOML value. -/
inductive Value where
  | string (text : String)
  | integer (number : Int)
  | fraction (number : Fraction)
  | boolean (flag : Bool)
  /-- A date, a time of day, or both. -/
  | moment (text : String)
  | array (items : List Value)
  | table (entries : List (String × Value))
deriving Inhabited, Repr

/-! ## Numbers as text -/

namespace Fraction

/-- Whether a number is zero. -/
def isZero : Fraction → Bool
  | .decimal _ digits _ => digits == 0
  | _ => false

/-- The digits without the zeros at their end, and the exponent that goes with them. -/
def normalize (digits : Nat) (exponent : Int) : Nat × Int :=
  if h : digits ≠ 0 ∧ digits % 10 = 0 then normalize (digits / 10) (exponent + 1)
  else (digits, if digits = 0 then 0 else exponent)
termination_by digits
decreasing_by omega

/-- A number in positional notation, with no more digits than it needs. -/
def text : Fraction → String
  | .infinity negative => if negative then "-inf" else "inf"
  | .notANumber => "NaN"
  | .decimal negative digits exponent =>
    let (digits, exponent) := normalize digits exponent
    let written := Nat.toDigits 10 digits
    let places := (-exponent).toNat
    let padded := List.replicate (places + 1 - written.length) '0' ++ written
    let whole := padded.take (padded.length - places) ++ List.replicate exponent.toNat '0'
    let rest := padded.drop (padded.length - places)
    String.ofList ((if negative then ['-'] else []) ++ whole ++
      if rest.isEmpty then [] else '.' :: rest)

end Fraction

end Dramaturgy.Toml
