import RideQuery.Intent

/-!
# Drafts of intents

An intent whose members have not been checked.  A draft is what a query is built
from, so that every malformed member has a failure of its own; a checked intent is
a draft all of whose members are known.
-/

namespace RideQuery

/-- A member of a worded type, or the value that was given in place of one. -/
inductive Choice (α : Type) where
  | known (member : α)
  | unknown (value : Value)

namespace Choice

/-- The member that a value names. -/
def ofValue {α : Type} [Worded α] : Value → Choice α
  | .text s =>
    match ofWording? s with
    | some member => .known member
    | none => .unknown (.text s)
  | value => .unknown value

/-- The value that was given. -/
def toValue {α : Type} [Worded α] : Choice α → Value
  | .known member => .text (Worded.wording member)
  | .unknown value => value

end Choice

/-- A condition whose members have not been checked. -/
structure DraftFilter where
  column : Value
  operator : Choice Operator
  value : Value
  parameterised : Bool

/-- An intent whose members have not been checked. -/
structure Draft where
  aggregation : Choice Aggregation
  filters : List DraftFilter
  dateRange : Option DateRange
  groupBy : List String

/-- A checked filter as a draft. -/
def Filter.toDraft (filter : Filter) : DraftFilter :=
  { column := .text filter.column
    operator := .known filter.operator
    value := filter.value.toValue
    parameterised := filter.parameterised }

/-- A checked intent as a draft. -/
def Intent.toDraft (intent : Intent) : Draft :=
  { aggregation := .known intent.aggregation
    filters := intent.filters.map Filter.toDraft
    dateRange := intent.dateRange
    groupBy := intent.groupBy }

/-! ## Reading -/

/-- The entries of a dictionary; other values have none. -/
def Value.entriesOf : Value → Dict
  | .dict entries => entries
  | _ => []

/-- The members of a list or a tuple; other values have none. -/
def Value.itemsOf : Value → List Value
  | .list items => items
  | .tuple items => items
  | _ => []

/-- The text that a value is. -/
def Value.text? : Value → Option String
  | .text s => some s
  | _ => none

/-- The text under a key. -/
def Value.textUnder? (entries : Dict) (key : String) : Option String :=
  (Value.lookup? entries key).bind Value.text?

/-- The unchecked filter that a record stands for. -/
def DraftFilter.ofValue (record : Value) : DraftFilter :=
  let entries := record.entriesOf
  { column := (Value.lookup? entries "column").getD .null
    operator := .ofValue ((Value.lookup? entries "operator").getD .null)
    value := (Value.lookup? entries "value").getD .null
    parameterised := ((Value.lookup? entries "is_parameterized").getD (.bool true)).truthy }

/-- The unchecked date range that a record stands for. -/
def DateRange.ofEntries (entries : Dict) : DateRange :=
  { startDate := Value.textUnder? entries "start_date"
    endDate := Value.textUnder? entries "end_date"
    relativeDate := (Value.textUnder? entries "relative_date").bind ofWording?
    specificMonth := Value.textUnder? entries "specific_month"
    specificYear := Value.textUnder? entries "specific_year" }

/-- The unchecked intent that a record stands for, missing members having their defaults. -/
def Draft.ofValue (record : Value) : Draft :=
  let entries := record.entriesOf
  { aggregation := .ofValue ((Value.lookup? entries "aggregation_type").getD (.text "count"))
    filters :=
      ((Value.lookup? entries "filter_conditions").getD .null).itemsOf.map DraftFilter.ofValue
    dateRange :=
      match Value.lookup? entries "date_range" with
      | some (.dict members) => some (.ofEntries members)
      | _ => none
    groupBy := ((Value.lookup? entries "group_by").getD .null).itemsOf.filterMap Value.text? }

end RideQuery
