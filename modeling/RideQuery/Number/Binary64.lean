import RideQuery.Number.Numeral

/-!
# Double precision

Double-precision numbers as exact data: a sign, a significand and a power of two,
or one of the special values.  Arithmetic is done on exact quotients of natural
numbers and rounded once, to the nearest representable number and to the even
significand on a tie.
-/

namespace RideQuery.Number

/-- Powers are those of the core library, whatever is imported beside it. -/
instance (priority := 2000) corePow {α : Type} [NatPow α] : Pow α Nat :=
  instPowNat

/--
A double-precision number.  A finite one is `significand * 2 ^ exponent` up to
sign; the significand has at most 53 bits and the exponent is at least -1074.
-/
inductive Binary64 where
  | nan
  | infinity (negative : Bool)
  | finite (negative : Bool) (significand : Nat) (exponent : Int)
  deriving DecidableEq

/-- The integer nearest to `num / den`, the even one on a tie. -/
def roundQuotient (num den : Nat) : Nat :=
  let quotient := num / den
  let twice := 2 * (num % den)
  if twice < den then quotient
  else if den < twice then quotient + 1
  else quotient + quotient % 2

/-- `num / den` scaled by a power of two, again as a quotient. -/
def scaleByTwo (num den : Nat) (power : Int) : Nat × Nat :=
  if 0 ≤ power then (num * 2 ^ power.toNat, den) else (num, den * 2 ^ (-power).toNat)

namespace Binary64

/-- The least exponent of a finite number. -/
def minExponent : Int := -1074

/-- The greatest exponent of a finite number. -/
def maxExponent : Int := 971

/-- The significands of normal numbers start here. -/
def hiddenBit : Nat := 2 ^ (52 : Nat)

/-- Zero with a sign. -/
def zero (negative : Bool) : Binary64 :=
  .finite negative 0 minExponent

/-- The number with a significand of at most `2 * hiddenBit`, or the infinity beyond the range. -/
def assemble (negative : Bool) (significand : Nat) (exponent : Int) : Binary64 :=
  let (significand, exponent) :=
    if significand = 2 * hiddenBit then (hiddenBit, exponent + 1) else (significand, exponent)
  if maxExponent < exponent then .infinity negative
  else .finite negative significand exponent

/-- The exponent at which `num / den` has a significand of 53 bits, or the least exponent. -/
def exponentOf (num den : Nat) : Int :=
  let low : Int := (num.log2 : Int) - den.log2 - 53
  let (scaledNum, scaledDen) := scaleByTwo num den (-low)
  let exponent := if 2 * hiddenBit ≤ scaledNum / scaledDen then low + 1 else low
  max exponent minExponent

/-- The number nearest to `num / den`, where `den` is positive. -/
def ofRatio (negative : Bool) (num den : Nat) : Binary64 :=
  if num = 0 then zero negative
  else
    let exponent := exponentOf num den
    let (scaledNum, scaledDen) := scaleByTwo num den (-exponent)
    assemble negative (roundQuotient scaledNum scaledDen) exponent

/-- The number nearest to an integer; one beyond the range is refused. -/
def ofInt (n : Int) : Except NumberError Binary64 :=
  match ofRatio (n < 0) n.natAbs 1 with
  | .infinity _ => .error .beyondDouble
  | x => .ok x

/-- The number nearest to `digits * 10 ^ exponent`, an infinity beyond the range. -/
def ofDecimal (negative : Bool) (digits : Nat) (exponent : Int) : Binary64 :=
  let magnitude : Int := digitCount digits + exponent
  if digits = 0 ∨ magnitude < -330 then zero negative
  else if 310 < magnitude then .infinity negative
  else if 0 ≤ exponent then ofRatio negative (digits * 10 ^ exponent.toNat) 1
  else ofRatio negative digits (10 ^ (-exponent).toNat)

/-! ## Exact magnitudes -/

/-- The absolute value of a finite number as a quotient. -/
def magnitude (significand : Nat) (exponent : Int) : Nat × Nat :=
  scaleByTwo significand 1 exponent

/-- A signed integer times a power of two, as a double-precision number. -/
def ofScaled (value : Int) (exponent : Int) (negativeZero : Bool) : Binary64 :=
  if value = 0 then zero negativeZero
  else
    let (num, den) := magnitude value.natAbs exponent
    ofRatio (value < 0) num den

/-- A significand with its sign, brought to a lower exponent. -/
def alignTo (exponent : Int) (negative : Bool) (significand : Nat) (own : Int) : Int :=
  let scaled : Int := significand * 2 ^ (own - exponent).toNat
  if negative then -scaled else scaled

/-! ## Arithmetic -/

/-- The opposite number. -/
protected def neg : Binary64 → Binary64
  | .nan => .nan
  | .infinity negative => .infinity !negative
  | .finite negative significand exponent => .finite (!negative) significand exponent

/-- The rounded sum. -/
protected def add : Binary64 → Binary64 → Binary64
  | .nan, _ => .nan
  | _, .nan => .nan
  | .infinity a, .infinity b => if a = b then .infinity a else .nan
  | .infinity a, .finite .. => .infinity a
  | .finite .., .infinity b => .infinity b
  | .finite a m i, .finite b n j =>
    let exponent := min i j
    ofScaled (alignTo exponent a m i + alignTo exponent b n j) exponent (a && b)

/-- The rounded difference. -/
protected def sub (x y : Binary64) : Binary64 :=
  x.add y.neg

/-- The rounded product. -/
protected def mul : Binary64 → Binary64 → Binary64
  | .nan, _ => .nan
  | _, .nan => .nan
  | .infinity a, .infinity b => .infinity (a != b)
  | .infinity a, .finite b n _ => if n = 0 then .nan else .infinity (a != b)
  | .finite a m _, .infinity b => if m = 0 then .nan else .infinity (a != b)
  | .finite a m i, .finite b n j =>
    let (num, den) := magnitude (m * n) (i + j)
    ofRatio (a != b) num den

/-- Whether one number is less than another; not-a-number is not comparable. -/
protected def lt : Binary64 → Binary64 → Bool
  | .nan, _ => false
  | _, .nan => false
  | .infinity a, .infinity b => a && !b
  | .infinity a, .finite .. => a
  | .finite .., .infinity b => !b
  | .finite a m i, .finite b n j =>
    let exponent := min i j
    alignTo exponent a m i < alignTo exponent b n j

instance : Neg Binary64 := ⟨Binary64.neg⟩
instance : Add Binary64 := ⟨Binary64.add⟩
instance : Sub Binary64 := ⟨Binary64.sub⟩
instance : Mul Binary64 := ⟨Binary64.mul⟩
instance : LT Binary64 := ⟨fun x y => x.lt y = true⟩

instance (x y : Binary64) : Decidable (x < y) :=
  inferInstanceAs (Decidable (x.lt y = true))

instance : OfNat Binary64 n := ⟨ofRatio false n 1⟩

/-- Whether a number is zero, of either sign. -/
def isZero : Binary64 → Bool
  | .finite _ 0 _ => true
  | _ => false

/-! ## Whole numbers -/

/-- A natural number with a sign. -/
def signed (negative : Bool) (n : Nat) : Int :=
  if negative then -(n : Int) else n

/-- The integer part. -/
def truncate : Binary64 → Except NumberError Int
  | .nan => .error .nanToInteger
  | .infinity _ => .error .infinityToInteger
  | .finite negative significand exponent =>
    let (num, den) := magnitude significand exponent
    .ok (signed negative (num / den))

/-- The nearest integer, the even one on a tie. -/
def round : Binary64 → Except NumberError Int
  | .nan => .error .nanToInteger
  | .infinity _ => .error .infinityToInteger
  | .finite negative significand exponent =>
    let (num, den) := magnitude significand exponent
    .ok (signed negative (roundQuotient num den))

/-- The number nearest to the nearest tenth, the even tenth on a tie. -/
def roundToTenth : Binary64 → Binary64
  | .finite negative significand exponent =>
    let (num, den) := magnitude significand exponent
    ofRatio negative (roundQuotient (10 * num) den) 10
  | special => special

end Binary64

end RideQuery.Number
