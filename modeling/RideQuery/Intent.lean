import RideQuery.Value

/-!
# Intents

What a question asks for: how trips are aggregated, which trips are kept, which
dates they fall on and how they are grouped.  An intent names columns without
their tables; which column is meant is decided when a query is built.
-/

namespace RideQuery

open RideQuery.Number

/-- The kind of query that a question is put down as; every kind is answered by an aggregate. -/
inductive QueryKind where
  | aggregation
  | filter
  | join
  | groupBy
  | dateRange
  deriving DecidableEq

/-- How the trips that are kept become one number. -/
inductive Aggregation where
  | count
  | sum
  | avg
  | max
  | min
  deriving DecidableEq

/-- How a column is compared with the value of a filter. -/
inductive Operator where
  | equal
  | notEqual
  | greater
  | less
  | atLeast
  | atMost
  | like
  | isIn
  deriving DecidableEq

/-- A span of days that moves with the calendar. -/
inductive RelativeDate where
  | lastMonth
  | lastWeek
  | thisMonth
  | thisWeek
  deriving DecidableEq

/-- A finite type whose members have texts by which they are written and read. -/
class Worded (α : Type) where
  members : List α
  wording : α → String

/-- The member of a worded type that a text stands for. -/
def ofWording? {α : Type} [Worded α] (text : String) : Option α :=
  (Worded.members (α := α)).find? fun member => Worded.wording member == text

instance : Worded QueryKind where
  members := [.aggregation, .filter, .join, .groupBy, .dateRange]
  wording
    | .aggregation => "aggregation"
    | .filter => "filter"
    | .join => "join"
    | .groupBy => "group_by"
    | .dateRange => "date_range"

instance : Worded Aggregation where
  members := [.count, .sum, .avg, .max, .min]
  wording
    | .count => "count"
    | .sum => "sum"
    | .avg => "avg"
    | .max => "max"
    | .min => "min"

instance : Worded Operator where
  members := [.equal, .notEqual, .greater, .less, .atLeast, .atMost, .like, .isIn]
  wording
    | .equal => "="
    | .notEqual => "!="
    | .greater => ">"
    | .less => "<"
    | .atLeast => ">="
    | .atMost => "<="
    | .like => "LIKE"
    | .isIn => "IN"

instance : Worded RelativeDate where
  members := [.lastMonth, .lastWeek, .thisMonth, .thisWeek]
  wording
    | .lastMonth => "last_month"
    | .lastWeek => "last_week"
    | .thisMonth => "this_month"
    | .thisWeek => "this_week"

/-- What a column is compared with. -/
inductive FilterValue where
  | int (n : Int)
  | float (x : Binary64)
  | text (s : String)
  | texts (members : List String)
  deriving DecidableEq

/-- The open value that a filter value is. -/
def FilterValue.toValue : FilterValue → Value
  | .int n => .int n
  | .float x => .float x
  | .text s => .text s
  | .texts members => .list (members.map .text)

/-- A condition on one column. -/
structure Filter where
  column : String
  operator : Operator
  value : FilterValue
  /-- Whether the value is passed beside the query, and not written into it. -/
  parameterised : Bool := true
  deriving DecidableEq

/-- The dates that trips have to fall on. -/
structure DateRange where
  startDate : Option String := none
  endDate : Option String := none
  relativeDate : Option RelativeDate := none
  specificMonth : Option String := none
  specificYear : Option String := none
  deriving DecidableEq

/-- The text in an optional member, unless it is empty. -/
def nonempty? : Option String → Option String
  | some text => if text.isEmpty then none else some text
  | none => none

namespace DateRange

/-- The first and the last day of a range that has both. -/
def bounds? (range : DateRange) : Option (String × String) :=
  match nonempty? range.startDate, nonempty? range.endDate with
  | some first, some last => some (first, last)
  | _, _ => none

/-- Whether a range has both a first and a last day. -/
def hasBounds (range : DateRange) : Bool :=
  range.bounds?.isSome

end DateRange

/-- What a question asks for. -/
structure Intent where
  kind : QueryKind := .aggregation
  aggregation : Aggregation := .count
  filters : List Filter := []
  dateRange : Option DateRange := none
  groupBy : List String := []
  deriving DecidableEq

/-! ## Records -/

/-- An optional text as a value. -/
def Value.ofOption : Option String → Value
  | some s => .text s
  | none => .null

/-- A filter as a record. -/
def Filter.toValue (filter : Filter) : Value :=
  .dict
    [(.text "column", .text filter.column),
      (.text "operator", .text (Worded.wording filter.operator)),
      (.text "value", filter.value.toValue),
      (.text "is_parameterized", .bool filter.parameterised)]

/-- A date range as a record. -/
def DateRange.toValue (range : DateRange) : Value :=
  .dict
    [(.text "start_date", .ofOption range.startDate),
      (.text "end_date", .ofOption range.endDate),
      (.text "relative_date", .ofOption (range.relativeDate.map Worded.wording)),
      (.text "specific_month", .ofOption range.specificMonth),
      (.text "specific_year", .ofOption range.specificYear)]

/-- The entries of an intent's record. -/
def Intent.entries (intent : Intent) : Dict :=
  [(.text "type", .text (Worded.wording intent.kind)),
    (.text "aggregation_type", .text (Worded.wording intent.aggregation)),
    (.text "filter_conditions", .list (intent.filters.map Filter.toValue)),
    (.text "date_range", (intent.dateRange.map DateRange.toValue).getD .null),
    (.text "group_by", .list (intent.groupBy.map .text))]

end RideQuery
