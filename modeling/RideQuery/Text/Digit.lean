import RideQuery.Text.CodeRun

/-!
# Digits

Two classes of digits are told apart.  A decimal digit has a value from nought to
nine and may stand in a numeral of any script.  The wider class also holds
superscripts, subscripts and enclosed digits, which look like digits but cannot be
read as a numeral.
-/

namespace RideQuery.Text

/-- The zero of each run of ten decimal digits, in order. -/
def decimalZeros : List Nat :=
  [48, 1632, 1776, 1984, 2406, 2534, 2662, 2790, 2918, 3046, 3174, 3302, 3430, 3558, 3664, 3792,
    3872, 4160, 4240, 6112, 6160, 6470, 6608, 6784, 6800, 6992, 7088, 7232, 7248, 42528, 43216,
    43264, 43472, 43504, 43600, 44016, 65296, 66720, 68912, 69734, 69872, 69942, 70096, 70384,
    70736, 70864, 71248, 71360, 71472, 71904, 72016, 72784, 73040, 73120, 92768, 92864, 93008,
    120782, 120792, 120802, 120812, 120822, 123200, 123632, 125264, 130032]

/-- The digits that no numeral is made of, in order. -/
def looseDigitRanges : List (Nat × Nat) :=
  [(178, 179), (185, 185), (4969, 4977), (6618, 6618), (8304, 8304), (8308, 8313), (8320, 8329),
    (9312, 9320), (9332, 9340), (9352, 9360), (9450, 9450), (9461, 9469), (9471, 9471),
    (10102, 10110), (10112, 10120), (10122, 10130), (68160, 68163), (69216, 69224),
    (69714, 69722), (127232, 127242)]

/-- The value of a decimal digit of any script. -/
def digitValue? (c : Char) : Option Nat :=
  if c.toNat < 128 then
    if c.isDigit then some (c.toNat - 48) else none
  else
    (decimalZeros.find? fun nought => nought ≤ c.toNat && c.toNat < nought + 10).map (c.toNat - ·)

/-- Whether a character is a decimal digit of some script. -/
def isDecimalDigit (c : Char) : Bool :=
  (digitValue? c).isSome

/-- Whether a character is a digit at all, superscripts and enclosed digits included. -/
def isDigitLike (c : Char) : Bool :=
  isDecimalDigit c || inRanges looseDigitRanges c.toNat

/-- Whether a text consists of digits, at least one, of the wider class. -/
def allDigitLike (text : List Char) : Bool :=
  !text.isEmpty && text.all isDigitLike

end RideQuery.Text
