import RideQuery.Number.DecimalText
import RideQuery.Text.Search

/-!
# Exact decimals

Decimal numbers that keep the digits they were written with, trailing zeros
included, as a database returns them.
-/

namespace RideQuery.Number

open RideQuery.Text

/-- An exact decimal, `coefficient * 10 ^ exponent` when finite. -/
inductive Decimal where
  | finite (negative : Bool) (coefficient : Nat) (exponent : Int)
  | infinity (negative : Bool)
  /-- Not a number, with a diagnostic number that nought stands for the lack of. -/
  | nan (negative signalling : Bool) (payload : Nat)
  deriving DecidableEq

namespace Decimal

/-- The digits of a coefficient, split where the point goes. -/
def splitAtPoint (digits : List Char) (place : Int) : List Char :=
  if place ≤ 0 then
    '0' :: '.' :: (List.replicate (-place).toNat '0' ++ digits)
  else if digits.length ≤ place.toNat then
    digits ++ List.replicate (place.toNat - digits.length) '0'
  else
    digits.take place.toNat ++ '.' :: digits.drop place.toNat

/-- The exponent part of a decimal, its sign always written. -/
def exponentPart (exponent : Int) : List Char :=
  if exponent = 0 then []
  else 'E' :: (if exponent < 0 then '-' else '+') :: digitChars exponent.natAbs

/--
The text of a decimal: without an exponent unless the exponent is positive or the
number is below `10 ^ -6`.
-/
def chars : Decimal → List Char
  | .nan negative signalling payload =>
    withSign negative
      ((if signalling then "sNaN".toList else "NaN".toList) ++
        if payload = 0 then [] else digitChars payload)
  | .infinity negative => withSign negative "Infinity".toList
  | .finite negative coefficient exponent =>
    let digits := digitChars coefficient
    let leading : Int := exponent + digits.length
    let place : Int := if exponent ≤ 0 ∧ -6 < leading then leading else 1
    withSign negative (splitAtPoint digits place ++ exponentPart (leading - place))

/-- The text of a decimal. -/
def text (d : Decimal) : String :=
  String.ofList d.chars

/-- Whether a decimal is zero, of either sign and with any number of places. -/
def isZero : Decimal → Bool
  | .finite _ 0 _ => true
  | _ => false

/-- The double-precision number nearest to a decimal. -/
def toBinary64 : Decimal → Except NumberError Binary64
  | .finite negative coefficient exponent => .ok (Binary64.ofDecimal negative coefficient exponent)
  | .infinity negative => .ok (.infinity negative)
  | .nan _ signalling _ => if signalling then .error .signalling else .ok .nan

/-- The number that a plain decimal text stands for, exactly. -/
def readFinite? (negative : Bool) (text : List Char) : Option Decimal :=
  let whole := text.takeWhile Char.isDigit
  let (places, rest) :=
    match text.dropWhile Char.isDigit with
    | '.' :: rest => (rest.takeWhile Char.isDigit, rest.dropWhile Char.isDigit)
    | rest => ([], rest)
  if whole.isEmpty && places.isEmpty then none
  else
    (readExponent rest).map fun exponent =>
      .finite negative (asciiValue (whole ++ places)) (exponent - places.length)

/-- The diagnostic number behind a name, if nothing but digits follow it. -/
def payload? (name : String) (text : List Char) : Option Nat := do
  let digits ← dropExact name.toList text
  if digits.all Char.isDigit then some (asciiValue digits) else none

/-- The decimal that is not a number and that a text in small letters stands for. -/
def readNan? (negative : Bool) (text : List Char) : Option Decimal :=
  (payload? "nan" text).map (.nan negative false) <|>
    (payload? "snan" text).map (.nan negative true)

/-- The decimal that a text stands for. -/
def read? (text : String) : Option Decimal :=
  let (negative, rest) := dropSign text.toList
  let name := rest.map Char.toLower
  if name == "inf".toList || name == "infinity".toList then some (.infinity negative)
  else readNan? negative name <|> readFinite? negative rest

end Decimal

end RideQuery.Number
