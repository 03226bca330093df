import RideQuery.Text.Blank
import RideQuery.Text.Digit
import RideQuery.Text.Quoted

/-!
# Integer numerals

Reading and writing whole numbers as decimal text.  A numeral may use the decimal
digits of any script, single underscores between digits, a sign, and blanks
around it.  Neither direction handles more than `maxDigits` digits, which bounds
the work that a hostile text can cause.
-/

namespace RideQuery.Number

open RideQuery.Text

/-- The most digits that an integer may have when it is read or written. -/
def maxDigits : Nat := 4300

/-- Why a number could not be read, written or converted. -/
inductive NumberError where
  /-- The text is no integer numeral. -/
  | notAnInteger (text : List Char)
  /-- The numeral has more digits than may be read. -/
  | tooManyDigits (count : Nat)
  /-- The integer has more digits than may be written. -/
  | tooLongToWrite
  /-- The text is no decimal number. -/
  | notADecimal (text : List Char)
  /-- A value of this type is not a number. -/
  | notNumeric (typeName : String)
  /-- An integer beyond the range of double precision. -/
  | beyondDouble
  /-- Not-a-number has no integer part. -/
  | nanToInteger
  /-- An infinity has no integer part. -/
  | infinityToInteger
  /-- A decimal that is not a number has no integer part. -/
  | nanDecimal
  /-- An infinite decimal has no integer part. -/
  | infiniteDecimal
  /-- A signalling not-a-number was converted. -/
  | signalling
  deriving DecidableEq

namespace NumberError

/-- How many characters of a refused integer numeral are shown. -/
def shownLength : Nat := 200

/-- The wording of each failure. -/
def message : NumberError → String
  | .notAnInteger text =>
    "invalid literal for int() with base 10: " ++
      String.ofList ((quoted text).take shownLength)
  | .tooManyDigits count =>
    "Exceeds the limit (4300 digits) for integer string conversion: value has " ++
      Nat.repr count ++ " digits; use sys.set_int_max_str_digits() to increase the limit"
  | .tooLongToWrite =>
    "Exceeds the limit (4300 digits) for integer string conversion; " ++
      "use sys.set_int_max_str_digits() to increase the limit"
  | .notADecimal text =>
    "could not convert string to float: " ++ String.ofList (quoted text)
  | .notNumeric typeName =>
    "float() argument must be a string or a real number, not '" ++ typeName ++ "'"
  | .beyondDouble => "int too large to convert to float"
  | .nanToInteger => "cannot convert float NaN to integer"
  | .infinityToInteger => "cannot convert float infinity to integer"
  | .nanDecimal => "cannot convert NaN to integer"
  | .infiniteDecimal => "cannot convert Infinity to integer"
  | .signalling => "cannot convert signaling NaN to float"

end NumberError

/-- The number of decimal digits of a number, nought having none. -/
def digitCount (n : Nat) : Nat :=
  if n = 0 then 0 else (Nat.toDigits 10 n).length

/-- The decimal text of an integer, whatever its length. -/
def integerText (n : Int) : String :=
  if n < 0 then "-" ++ Nat.repr n.natAbs else Nat.repr n.natAbs

/-- The decimal text of an integer, refused beyond the digit limit. -/
def writeInteger (n : Int) : Except NumberError String :=
  if digitCount n.natAbs ≤ maxDigits then .ok (integerText n) else .error .tooLongToWrite

/-- Blanks around a numeral: all but the information separators. -/
def isNumeralBlank (c : Char) : Bool :=
  isBlank c && !(28 ≤ c.toNat && c.toNat ≤ 31)

/-- A leading sign, true for minus, and the text behind it. -/
def dropSign : List Char → Bool × List Char
  | '+' :: rest => (false, rest)
  | '-' :: rest => (true, rest)
  | text => (false, text)

/-- The number that a run of decimal digits stands for, most significant first. -/
def ofDigits (digits : List Nat) : Nat :=
  digits.foldl (fun value digit => 10 * value + digit) 0

/-- The values of some characters, if they are all decimal digits. -/
def digitValues? (text : List Char) : Option (List Nat) :=
  text.mapM digitValue?

/-- The characters up to the first that is neither a digit nor an underscore. -/
def digitSpan (text : List Char) : List Char :=
  text.takeWhile fun c => isDecimalDigit c || c == '_'

/-- Whether an underscore follows another one or ends a text. -/
def looseUnderscore : List Char → Bool
  | [] => false
  | ['_'] => true
  | '_' :: '_' :: _ => true
  | _ :: rest => looseUnderscore rest

/-- The value of a run of digits with single underscores between them. -/
def readDigits (text : List Char) : Except NumberError (Option Nat) :=
  let span := digitSpan text
  let digits := span.filterMap digitValue?
  if span.head? == some '_' || digits.isEmpty || looseUnderscore span then
    .ok none
  else if maxDigits < digits.length then
    .error (.tooManyDigits digits.length)
  else if span.length == text.length then
    .ok (some (ofDigits digits))
  else
    .ok none

/-- The integer that a text stands for. -/
def readInteger (text : List Char) : Except NumberError Int := do
  let (negative, rest) := dropSign (stripWhile isNumeralBlank text)
  match ← readDigits rest with
  | some value => .ok (if negative then -(value : Int) else value)
  | none => .error (.notAnInteger text)

end RideQuery.Number
