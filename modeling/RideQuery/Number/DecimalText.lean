import RideQuery.Number.Binary64

/-!
# Decimal text of double-precision numbers

The shortest decimal that reads back, the text with a fixed number of places, and
reading.  Everything is exact arithmetic on natural numbers.
-/

namespace RideQuery.Number

open RideQuery.Text

/-- A decimal `0.d₁d₂… * 10 ^ point`, its digits as one number. -/
structure ShortDecimal where
  digits : Nat
  point : Int
  deriving DecidableEq

/-- The power of ten just above `num / den`: the least `p` with `num / den < 10 ^ p`. -/
def decimalPoint (num den : Nat) : Int :=
  if den ≤ num then digitCount (num / den) else 1 - (digitCount ((den - 1) / num) : Int)

/-- `num / den` scaled by a power of ten, again as a quotient. -/
def scaleByTen (num den : Nat) (power : Int) : Nat × Nat :=
  if 0 ≤ power then (num * 10 ^ power.toNat, den) else (num, den * 10 ^ (-power).toNat)

namespace Binary64

/--
The neighbour of `num / den` on the grid of decimals with `count` digits that
reads back as `target`: the nearer one if both do, the even one on a tie.
-/
def onGrid (target : Binary64) (num den : Nat) (point : Int) (count : Nat) : Option Nat :=
  let (scaledNum, scaledDen) := scaleByTen num den (count - point)
  let below := scaledNum / scaledDen
  let above := below + 1
  let reads := fun digits => ofDecimal false digits (point - count) == target
  match reads below, reads above with
  | true, true => some (roundQuotient scaledNum scaledDen)
  | true, false => some below
  | false, true => some above
  | false, false => none

/-- The digits of the first grid, from `count` digits on, that holds a number reading back. -/
def shortestFrom (target : Binary64) (num den : Nat) (point : Int) :
    Nat → Nat → Option ShortDecimal
  | 0, _ => none
  | fuel + 1, count =>
    match onGrid target num den point count with
    | some digits =>
      some { digits, point := point + (if digits = 10 ^ count then 1 else 0) }
    | none => shortestFrom target num den point fuel (count + 1)

/-- No double needs more digits than this to be told from its neighbours. -/
def maxShortestDigits : Nat := 17

/-- The decimal that a positive number is exactly. -/
def exactDecimal (significand : Nat) (exponent : Int) : ShortDecimal :=
  let digits :=
    if 0 ≤ exponent then significand * 2 ^ exponent.toNat
    else significand * 5 ^ (-exponent).toNat
  { digits, point := digitCount digits + min exponent 0 }

/--
The shortest decimal that reads back as a positive number, and the nearest of those.
A number that needs more digits than any double does is written exactly.
-/
def shortest (significand : Nat) (exponent : Int) : ShortDecimal :=
  let (num, den) := magnitude significand exponent
  (shortestFrom (.finite false significand exponent) num den (decimalPoint num den)
    maxShortestDigits 1).getD (exactDecimal significand exponent)

end Binary64

/-! ## Layout -/

/-- The digits of a natural number, most significant first. -/
def digitChars (n : Nat) : List Char :=
  Nat.toDigits 10 n

/-- Digits without the zeros at their end. -/
def dropTrailingZeros (digits : List Char) : List Char :=
  let kept := dropRightWhile (· == '0') digits
  if kept.isEmpty then ['0'] else kept

/-- A sign in front of a text. -/
def withSign (negative : Bool) (text : List Char) : List Char :=
  if negative then '-' :: text else text

/-- A decimal exponent: a sign and at least two digits. -/
def exponentChars (exponent : Int) : List Char :=
  let digits := digitChars exponent.natAbs
  (if exponent < 0 then '-' else '+') ::
    (if digits.length < 2 then '0' :: digits else digits)

/-- Digits split by a point behind the first one, the point left out behind a lone digit. -/
def pointAfterFirst : List Char → List Char
  | [] => []
  | [digit] => [digit]
  | digit :: rest => digit :: '.' :: rest

/-- The digits of `0.d₁d₂… * 10 ^ point` written out with a point and a digit on either side. -/
def positional (digits : List Char) (point : Int) : List Char :=
  if point ≤ 0 then
    '0' :: '.' :: (List.replicate (-point).toNat '0' ++ digits)
  else
    let whole := point.toNat
    if digits.length ≤ whole then
      digits ++ List.replicate (whole - digits.length) '0' ++ ['.', '0']
    else
      digits.take whole ++ '.' :: digits.drop whole

/--
The display of a positive decimal: positional from `10 ^ -4` up to but not
including `10 ^ 16`, and scientific outside that range.
-/
def displayDecimal (decimal : ShortDecimal) : List Char :=
  let digits := dropTrailingZeros (digitChars decimal.digits)
  if -4 < decimal.point ∧ decimal.point ≤ 16 then
    positional digits decimal.point
  else
    pointAfterFirst digits ++ 'e' :: exponentChars (decimal.point - 1)

/-- The names of the numbers that have no digits. -/
structure SpecialNames where
  nan : String
  infinity : String

/-- The names used wherever a number is shown by itself. -/
def plainNames : SpecialNames :=
  { nan := "nan", infinity := "inf" }

/-- The text of a double-precision number: the shortest decimal that reads back. -/
def Binary64.textWith (names : SpecialNames) : Binary64 → List Char
  | .nan => names.nan.toList
  | .infinity negative => withSign negative names.infinity.toList
  | .finite negative significand exponent =>
    withSign negative <|
      if significand = 0 then ['0', '.', '0']
      else displayDecimal (Binary64.shortest significand exponent)

/-- The text of a double-precision number with the plain names. -/
def Binary64.text (x : Binary64) : String :=
  String.ofList (x.textWith plainNames)

/-- A natural number of `10 ^ -places` written with a point and `places` digits behind it. -/
def fixedPoint (places n : Nat) : List Char :=
  let digits := digitChars n
  let padded := List.replicate (places + 1 - digits.length) '0' ++ digits
  let whole := padded.length - places
  if places = 0 then padded else padded.take whole ++ '.' :: padded.drop whole

/-- The text with a fixed number of places, rounded to the even neighbour on a tie. -/
def Binary64.fixed (places : Nat) : Binary64 → List Char
  | .nan => plainNames.nan.toList
  | .infinity negative => withSign negative plainNames.infinity.toList
  | .finite negative significand exponent =>
    let (num, den) := Binary64.magnitude significand exponent
    withSign negative (fixedPoint places (roundQuotient (num * 10 ^ places) den))

/-! ## Reading -/

/-- A numeral with every decimal digit brought to ASCII. -/
def toAsciiDigits (text : List Char) : List Char :=
  text.map fun c =>
    match digitValue? c with
    | some value => Char.ofNat (48 + value)
    | none => c

/-- A text without the underscores that stand between two digits; any other one is refused. -/
def dropUnderscores (afterDigit : Bool) : List Char → Option (List Char)
  | [] => some []
  | '_' :: rest =>
    match rest with
    | c :: _ => if afterDigit && c.isDigit then dropUnderscores false rest else none
    | [] => none
  | c :: rest => (dropUnderscores c.isDigit rest).map (c :: ·)

/-- The value of a run of ASCII digits. -/
def asciiValue (digits : List Char) : Nat :=
  ofDigits (digits.map fun c => c.toNat - 48)

/-- The exponent part of a decimal number, nought if there is none. -/
def readExponent : List Char → Option Int
  | [] => some 0
  | c :: rest =>
    if c == 'e' || c == 'E' then
      let (negative, digits) := dropSign rest
      if !digits.isEmpty && digits.all Char.isDigit then
        some (Binary64.signed negative (asciiValue digits))
      else
        none
    else
      none

/-- An unsigned decimal number: digits with an optional point, and an optional exponent. -/
def readUnsigned (negative : Bool) (text : List Char) : Option Binary64 :=
  let whole := text.takeWhile Char.isDigit
  let (places, rest) :=
    match text.dropWhile Char.isDigit with
    | '.' :: rest => (rest.takeWhile Char.isDigit, rest.dropWhile Char.isDigit)
    | rest => ([], rest)
  if whole.isEmpty && places.isEmpty then none
  else
    (readExponent rest).map fun exponent =>
      Binary64.ofDecimal negative (asciiValue (whole ++ places)) (exponent - places.length)

/-- The double-precision number nearest to the decimal that a text stands for. -/
def Binary64.read? (text : List Char) : Option Binary64 := do
  let plain ← dropUnderscores false (toAsciiDigits (stripWhile isNumeralBlank text))
  let (negative, rest) := dropSign plain
  let name := rest.map Char.toLower
  if name == "inf".toList || name == "infinity".toList then
    some (.infinity negative)
  else if name == "nan".toList then
    some .nan
  else
    readUnsigned negative rest

/-- The number that a text stands for, or the failure to read it. -/
def Binary64.read (text : List Char) : Except NumberError Binary64 :=
  match Binary64.read? text with
  | some x => .ok x
  | none => .error (.notADecimal text)

end RideQuery.Number
