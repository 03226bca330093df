import RideQuery.Intent.Draft
import RideQuery.Schema.Profile
import RideQuery.Text.Blank
import RideQuery.Value.Display

/-!
# Explanations

What a query computes, in words.  An explanation is made from the intent, and
looks at the columns only to say what a filter is about.
-/

namespace RideQuery.Query

open RideQuery.Text RideQuery.Number RideQuery.Schema

/-- The first column that a value names, whatever its table. -/
def namedColumn (columns : List Column) : Value → Option Column
  | .text name => findColumn columns name
  | _ => none

/-- What an aggregation computes. -/
def aggregationPhrase : Choice Aggregation → String
  | .known .avg => "Calculate average ride time"
  | .known .sum => "Sum total distance"
  | .known .max => "Find the group with the most departures"
  | _ => "Count total trips"

/-- A text without the percent signs at either end. -/
def stripPercent (text : String) : String :=
  String.ofList (stripWhile (· == '%') text.toList)

/-- Whether a choice is a known operator, namely the given one. -/
def isOperator (choice : Choice Operator) (operator : Operator) : Bool :=
  match choice with
  | .known known => known == operator
  | .unknown _ => false

/-- The subject that a filter is about. -/
inductive FilterSubject where
  | place
  | riders
  | rain
  | other
  deriving DecidableEq

/-- The subject of a filter on a column, if there is such a column. -/
def filterSubject (operator : Choice Operator) : Option Column → FilterSubject
  | none => .other
  | some column =>
    if column.inTable Dimension.stations.table && isOperator operator .like then .place
    else if isGenderColumn column then .riders
    else if column.inTable Dimension.weather.table && isOperator operator .greater then .rain
    else .other

/-- What a filter keeps. -/
def describeFilter (columns : List Column) (filter : DraftFilter) :
    Except NumberError String :=
  match filterSubject filter.operator (namedColumn columns filter.column) with
  | .place => do
    let value ← filter.value.plain
    pure ("at stations matching '" ++ stripPercent value ++ "'")
  | .riders => do
    let value ← filter.value.plain
    pure ("for " ++ value ++ " riders")
  | .rain => pure "on rainy days"
  | .other => do
    let column ← filter.column.plain
    let operator ← filter.operator.toValue.plain
    let value ← filter.value.plain
    pure ("where " ++ column ++ " " ++ operator ++ " " ++ value)

/-- The dates that a range is restricted to. -/
def describeDates (range : DateRange) : Option String :=
  match range.bounds? with
  | some (first, last) => some ("from " ++ first ++ " to " ++ last)
  | none =>
    match nonempty? range.specificMonth, nonempty? range.specificYear with
    | some month, some year => some ("for " ++ month ++ "/" ++ year)
    | none, some year => some ("in " ++ year)
    | some month, none => some ("in month " ++ month)
    | none, none => none

/-- Texts with a comma and a blank between them, if there are any. -/
def enumeration? (texts : List String) : Option String :=
  if texts.isEmpty then none else some (", ".intercalate texts)

/-- What a query computes, in words. -/
def explain (draft : Draft) (columns : List Column) : Except NumberError String := do
  let filters ← draft.filters.mapM (describeFilter columns)
  pure <| " ".intercalate <|
    [some (aggregationPhrase draft.aggregation),
      (enumeration? draft.groupBy).map ("grouped by " ++ ·),
      enumeration? filters,
      draft.dateRange.bind describeDates].reduceOption

end RideQuery.Query
