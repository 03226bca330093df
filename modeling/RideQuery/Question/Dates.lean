import RideQuery.Calendar.Date
import RideQuery.Intent
import RideQuery.Question.Vocabulary

/-!
# Dates in questions

The month, the year and the span of days that a question speaks of.  Spans such as
`last month` are counted from the day on which the question is asked.
-/

namespace RideQuery.Question

open RideQuery.Text RideQuery.Calendar

/-- Why the dates of a question could not be worked out. -/
inductive DateError where
  /-- A month is recognised by a letter that only stands for one of its own. -/
  | strangeMonth
  /-- A day out of the calendar's range. -/
  | calendar (error : CalendarError)
  deriving DecidableEq

/-- The wording of each failure. -/
def DateError.message : DateError → String
  | .strangeMonth => "tuple.index(x): x not in tuple"
  | .calendar error => error.message

/-! ## Months -/

/-- The year of the twentieth or twenty-first century at the front of a text, if it stands alone. -/
def dropYear : List Char → Option (List Char)
  | a :: b :: c :: d :: rest =>
    if ((a == '1' && b == '9') || (a == '2' && b == '0')) && isDecimalDigit c &&
        isDecimalDigit d && boundaryAt (some d) rest then
      some [a, b, c, d]
    else
      none
  | _ => none

/-- A text without a comma in front of it. -/
def skipComma : List Char → List Char
  | ',' :: rest => rest
  | text => text

/-- A text without the word `of` and the blanks behind it. -/
def skipOf (text : List Char) : List Char :=
  match dropExact "of".toList text with
  | some rest => (dropBlanks rest).getD text
  | none => text

/-- Whether a year follows, be it behind a comma or behind the word `of`. -/
def yearFollows (text : List Char) : Bool :=
  (dropYear (skipOf ((skipComma (text.dropWhile isBlank)).dropWhile isBlank))).isSome

/-- A recogniser of a month; `may` is one only if a year follows it. -/
def monthName : Recogniser (List Char) :=
  fun before text => do
    let (written, left) ← wholeWord months before text
    guard (lower written != "may".toList || yearFollows left)
    pure (lower written)

/-- The number of a month, in two digits. -/
def monthNumber (name : List Char) : Except DateError String :=
  match months.findIdx? fun month => month.toList == name with
  | some index => .ok (String.ofList (Date.padded 2 (index + 1)))
  | none => .error .strangeMonth

/-- The number of the first month that a text names. -/
def specificMonth (text : List Char) : Except DateError (Option String) :=
  match findFirst monthName none text with
  | some name => (monthNumber name).map some
  | none => .ok none

/-- A recogniser of a year that stands alone. -/
def yearWord : Recogniser (List Char) :=
  fun before text => do
    guard (boundaryAt before text)
    dropYear text

/-- The first year that a text names. -/
def specificYear (text : List Char) : Option String :=
  (findFirst yearWord none text).map String.ofList

/-! ## Spans of days -/

/-- A span of days, both ends included. -/
structure Window where
  first : Date
  last : Date
  deriving DecidableEq

/-- The latest Monday that is not after a date. -/
def mondayOf (today : Date) : Except CalendarError Date :=
  Date.daysBefore today.weekday today

/-- The span of days that a relative date means on a given day. -/
def windowOn (today : Date) : RelativeDate → Except CalendarError Window
  | .lastMonth => do
    let first ← today.previousMonthStart
    let last ← today.monthStart.previous
    pure { first, last }
  | .thisMonth => pure { first := today.monthStart, last := today }
  | .lastWeek => do
    let monday ← mondayOf today
    let first ← Date.daysBefore 7 monday
    let last ← monday.previous
    pure { first, last }
  | .thisWeek => do
    let first ← mondayOf today
    pure { first, last := today }

/-- The pairs of words that name a relative date, in the order in which they are looked for. -/
def relativePhrases : List (RelativeDate × String × String) :=
  [(.lastMonth, "last", "month"), (.thisMonth, "this", "month"), (.lastWeek, "last", "week"),
    (.thisWeek, "this", "week")]

/-- The relative date that a text names. -/
def relativeDate? (text : List Char) : Option RelativeDate :=
  (relativePhrases.find? fun (_, first, second) =>
    recognises (wordPair first second) text).map Prod.fst

/-- The relative date that a text names, with its span on a given day. -/
def relativeWindow (text : List Char) (today : Date) :
    Except DateError (Option (RelativeDate × Window)) :=
  match relativeDate? text with
  | none => .ok none
  | some relative =>
    match windowOn today relative with
    | .ok window => .ok (some (relative, window))
    | .error error => .error (.calendar error)

/-- Whether a text speaks of a first week. -/
def speaksOfFirstWeek (text : List Char) : Bool :=
  recognises (wordPair "first" "week") text

/-- The days that a first week stands for, whatever the month. -/
def firstWeek : String × String := ("2025-06-01", "2025-06-07")

/-- The dates that a text speaks of, its case apart; a first week replaces any other span. -/
def dateRange (text : List Char) (today : Date) : Except DateError (Option DateRange) := do
  let text := lower text
  let month ← specificMonth text
  let year := specificYear text
  let relative ← relativeWindow text today
  let bounds :=
    if speaksOfFirstWeek text then some firstWeek
    else relative.map fun (_, window) => (window.first.iso, window.last.iso)
  let range : DateRange :=
    { startDate := bounds.map Prod.fst
      endDate := bounds.map Prod.snd
      relativeDate := relative.map Prod.fst
      specificMonth := month
      specificYear := year }
  pure (if range = {} then none else some range)

end RideQuery.Question
