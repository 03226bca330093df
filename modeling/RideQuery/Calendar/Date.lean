import RideQuery.Number.DecimalText

/-!
# Calendar dates

Dates of the Gregorian calendar in the years 1 to 9999, extended backwards before
its adoption.  A date carries the proof that it exists, so that arithmetic can
only fail by leaving that range.
-/

namespace RideQuery.Calendar

open RideQuery.Number

/-- The first year that dates are defined for. -/
def firstYear : Nat := 1

/-- The last year that dates are defined for. -/
def lastYear : Nat := 9999

/-- Every fourth year is a leap year, but of the full centuries only every fourth. -/
def isLeap (year : Nat) : Bool :=
  year % 4 == 0 && (year % 100 != 0 || year % 400 == 0)

/-- The number of days of a month. -/
def daysInMonth (year month : Nat) : Nat :=
  if month = 2 then (if isLeap year then 29 else 28)
  else if month = 4 ∨ month = 6 ∨ month = 9 ∨ month = 11 then 30
  else 31

/-- Whether a year, a month and a day name an existing date. -/
def Exists (year month day : Nat) : Prop :=
  firstYear ≤ year ∧ year ≤ lastYear ∧ 1 ≤ month ∧ month ≤ 12 ∧
    1 ≤ day ∧ day ≤ daysInMonth year month

instance (year month day : Nat) : Decidable (Exists year month day) := by
  unfold Exists
  infer_instance

/-- An existing date. -/
structure Date where
  year : Nat
  month : Nat
  day : Nat
  valid : Exists year month day
  deriving DecidableEq

/-- Why a date could not be computed. -/
inductive CalendarError where
  /-- The month before the first month of the first year. -/
  | yearZero
  /-- A day before the first or after the last date. -/
  | outOfRange
  deriving DecidableEq

/-- The wording of each failure. -/
def CalendarError.message : CalendarError → String
  | .yearZero => "year 0 is out of range"
  | .outOfRange => "date value out of range"

theorem one_le_daysInMonth (year month : Nat) : 1 ≤ daysInMonth year month := by
  unfold daysInMonth
  split
  · split <;> decide
  · split <;> decide

namespace Date

/-- The date with the given year, month and day, if it exists. -/
def ofParts? (year month day : Nat) : Option Date :=
  if h : Exists year month day then some ⟨year, month, day, h⟩ else none

/-- The first day of a date's month. -/
def monthStart (d : Date) : Date :=
  { d with
    day := 1
    valid := ⟨d.valid.1, d.valid.2.1, d.valid.2.2.1, d.valid.2.2.2.1, Nat.le_refl 1,
      one_le_daysInMonth d.year d.month⟩ }

/-- The first day of the month before a date's month. -/
def previousMonthStart (d : Date) : Except CalendarError Date :=
  if d.month = 1 then
    match ofParts? (d.year - 1) 12 1 with
    | some previous => .ok previous
    | none => .error .yearZero
  else
    match ofParts? d.year (d.month - 1) 1 with
    | some previous => .ok previous
    | none => .error .outOfRange

/-- The last day of a date's month. -/
def monthEnd (d : Date) : Date :=
  { d with
    day := daysInMonth d.year d.month
    valid := ⟨d.valid.1, d.valid.2.1, d.valid.2.2.1, d.valid.2.2.2.1,
      one_le_daysInMonth d.year d.month, Nat.le_refl _⟩ }

/-- The day before a date, if it is in range. -/
def previous (d : Date) : Except CalendarError Date :=
  if d.day = 1 then
    match d.previousMonthStart with
    | .ok start => .ok start.monthEnd
    | .error _ => .error .outOfRange
  else
    match ofParts? d.year d.month (d.day - 1) with
    | some previous => .ok previous
    | none => .error .outOfRange

/-- The date a number of days before another, if it is in range. -/
def daysBefore : Nat → Date → Except CalendarError Date
  | 0, d => .ok d
  | n + 1, d => do daysBefore n (← d.previous)

/-! ## Weekdays -/

/-- The days of the years before a year. -/
def daysBeforeYear (year : Nat) : Nat :=
  let past := year - 1
  past * 365 + past / 4 - past / 100 + past / 400

/-- The days of a year before a month. -/
def daysBeforeMonth (year : Nat) : Nat → Nat
  | 0 => 0
  | 1 => 0
  | month + 1 => daysBeforeMonth year month + daysInMonth year month

/-- The number of a date, the first one being 1. -/
def ordinal (d : Date) : Nat :=
  daysBeforeYear d.year + daysBeforeMonth d.year d.month + d.day

/-- The day of the week, Monday being 0; the first date was a Monday. -/
def weekday (d : Date) : Nat :=
  (d.ordinal + 6) % 7

/-! ## Text -/

/-- A number with zeros in front up to a width. -/
def padded (width n : Nat) : List Char :=
  let digits := digitChars n
  List.replicate (width - digits.length) '0' ++ digits

/-- The year, month and day joined by hyphens, in four, two and two digits. -/
def isoChars (d : Date) : List Char :=
  padded 4 d.year ++ '-' :: padded 2 d.month ++ '-' :: padded 2 d.day

/-- The year, month and day joined by hyphens, in four, two and two digits. -/
def iso (d : Date) : String :=
  String.ofList d.isoChars

/-- The date written as four, two and two ASCII digits joined by hyphens. -/
def ofIso? (text : String) : Option Date :=
  match text.toList with
  | [y₁, y₂, y₃, y₄, '-', m₁, m₂, '-', d₁, d₂] =>
    if [y₁, y₂, y₃, y₄, m₁, m₂, d₁, d₂].all Char.isDigit then
      ofParts? (asciiValue [y₁, y₂, y₃, y₄]) (asciiValue [m₁, m₂]) (asciiValue [d₁, d₂])
    else
      none
  | _ => none

/-- The short English names of the days of the week, Monday first. -/
def weekdayNames : List String :=
  ["Mon", "Tue", "Wed", "Thu", "Fri", "Sat", "Sun"]

/-- The short English names of the months. -/
def monthNames : List String :=
  ["Jan", "Feb", "Mar", "Apr", "May", "Jun", "Jul", "Aug", "Sep", "Oct", "Nov", "Dec"]

/-- Midnight at the start of a date, in the form that web headers use. -/
def webText (d : Date) : String :=
  weekdayNames.getD d.weekday "" ++ ", " ++ String.ofList (padded 2 d.day) ++ " " ++
    monthNames.getD (d.month - 1) "" ++ " " ++ String.ofList (padded 4 d.year) ++
    " 00:00:00 GMT"

end Date

end RideQuery.Calendar
