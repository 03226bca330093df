import RideQuery.Number.DecimalText

/-!
# Notations of numbers

Scientific notation with a given number of places, and the general notation that
chooses between it and a plain one.  Digits are found by exact rounding, to the even
digit on a tie.
-/

namespace RideQuery.Number

open RideQuery.Text

/-- How numbers are written. -/
inductive Notation where
  /-- With a fixed number of places. -/
  | fixed
  /-- With one digit in front of the point, and an exponent. -/
  | scientific
  /-- In the shorter of the two, without zeros at the end. -/
  | general
  deriving DecidableEq

/-- `num / den` rounded to `count` digits, with the power of ten just above it. -/
def significant (count num den : Nat) : ShortDecimal :=
  let point := decimalPoint num den
  let (scaledNum, scaledDen) := scaleByTen num den (count - point)
  let digits := roundQuotient scaledNum scaledDen
  if digits = 10 ^ count then { digits := digits / 10, point := point + 1 }
  else { digits, point }

/-- The digits of a magnitude and the exponent of the first, nought having zeros only. -/
def leadingDigits (count num den : Nat) : List Char × Int :=
  if num = 0 then
    (List.replicate count '0', 0)
  else
    let decimal := significant count num den
    (digitChars decimal.digits, decimal.point - 1)

/-- Digits with a point behind the first, and an exponent. -/
def scientificText (marked : Bool) (digits : List Char) (exponent : Int) : List Char :=
  (match digits with
    | [digit] => if marked then [digit, '.'] else [digit]
    | digits => pointAfterFirst digits) ++ 'e' :: exponentChars exponent

/-- Digits with a fixed number of places. -/
def fixedText (marked : Bool) (places num den : Nat) : List Char :=
  fixedPoint places (roundQuotient (num * 10 ^ places) den) ++
    (if marked && places == 0 then ['.'] else [])

/-- A text without the zeros behind its point, and without the point if nothing is left there. -/
def dropPlaceZeros (text : List Char) : List Char :=
  if text.contains '.' then dropRightWhile (· == '.') (dropRightWhile (· == '0') text) else text

/-- The general notation with a number of digits. -/
def generalText (marked : Bool) (count num den : Nat) : List Char :=
  let (digits, exponent) := leadingDigits count num den
  if -4 ≤ exponent ∧ exponent < count then
    let text := fixedText marked (count - 1 - exponent).toNat num den
    if marked then text else dropPlaceZeros text
  else
    let kept := if marked then digits else dropTrailingZeros digits
    scientificText marked kept exponent

/-- The absolute value of a number in some notation; `marked` keeps a point and zeros. -/
def Binary64.inNotation (style : Notation) (marked : Bool) (precision : Nat) :
    Binary64 → List Char
  | .nan => plainNames.nan.toList
  | .infinity _ => plainNames.infinity.toList
  | .finite _ significand exponent =>
    let (num, den) := Binary64.magnitude significand exponent
    match style with
    | .fixed => fixedText marked precision num den
    | .scientific =>
      let (digits, exponent) := leadingDigits (precision + 1) num den
      scientificText marked digits exponent
    | .general => generalText marked (max precision 1) num den

/-- Whether a number has a minus sign. -/
def Binary64.isNegative : Binary64 → Bool
  | .nan => false
  | .infinity negative => negative
  | .finite negative _ _ => negative

end RideQuery.Number
