import RideQuery.Query.Explanation
import RideQuery.Query.Statement
import RideQuery.Sql.Identifier
import RideQuery.Sql.Placeholder

/-!
# Building queries

From an intent to a statement and the parameters that are passed beside it.  The
names of an intent are resolved to columns, each parameterised filter is given the
next placeholder together with its parameter, and the finished text is checked once
more before it is handed out.
-/

namespace RideQuery.Query

open RideQuery.Text RideQuery.Number RideQuery.Schema RideQuery.Sql

/-! ## Failures -/

/-- What an intent names a column for. -/
inductive Role where
  | groupBy
  | filter
  deriving DecidableEq

/-- How a role is called in messages. -/
def Role.text : Role → String
  | .groupBy => "group-by"
  | .filter => "filter"

/-- A column that the schema has to have. -/
inductive Needed where
  | start
  | finish
  | distance
  deriving DecidableEq

/-- How a needed column is called in messages. -/
def Needed.text : Needed → String
  | .start => "trip start time"
  | .finish => "trip end time"
  | .distance => "trip distance"

/-- Why an intent has no query; values are kept as messages show them. -/
inductive BuildError where
  | unknownColumn (role : Role) (shown : String)
  | unsupportedIdentifier (role : Role) (shown : String)
  | missingColumn (needed : Needed)
  | nothingToGroupBy
  | unsupportedAggregation (shown : String)
  | unsupportedOperator (shown : String)
  | needsList (column : String)
  | notNumeric (shown : String)
  | malformedDate (text : String)
  | malformedMonth (text : String)
  | malformedYear (text : String)
  | placeholderMismatch
  | illFormed
  deriving DecidableEq

/-- The wording of each failure. -/
def BuildError.message : BuildError → String
  | .unknownColumn role shown => "Unknown " ++ role.text ++ " column: " ++ shown
  | .unsupportedIdentifier role shown =>
    "Unsupported identifier for " ++ role.text ++ " column: " ++ shown
  | .missingColumn needed => "The schema has no " ++ needed.text ++ " column"
  | .nothingToGroupBy => "A 'most' question needs a station name column to group by"
  | .unsupportedAggregation shown => "Unsupported aggregation: " ++ shown
  | .unsupportedOperator shown => "Unsupported operator: " ++ shown
  | .needsList column => "IN filter on " ++ column ++ " needs a list value"
  | .notNumeric shown => "Only numeric values can be inlined, got " ++ shown
  | .malformedDate text => "Malformed date literal: " ++ quote text
  | .malformedMonth text => "Malformed month: " ++ quote text
  | .malformedYear text => "Malformed year: " ++ quote text
  | .placeholderMismatch => "Placeholder count does not match parameter count"
  | .illFormed => "Generated SQL is not well-formed"

/-- Why building stopped: the intent was refused, or a number could not be handled. -/
inductive BuildFailure where
  | refused (error : BuildError)
  | number (error : NumberError)
  deriving DecidableEq

/-- The wording of each failure. -/
def BuildFailure.message : BuildFailure → String
  | .refused error => error.message
  | .number error => error.message

/-- The result of a step of building. -/
abbrev Building (α : Type) := Except BuildFailure α

/-- Refuses the intent. -/
def refuse {α : Type} (error : BuildError) : Building α :=
  .error (.refused error)

/-- A step that can only fail by a number. -/
def numeric {α : Type} (result : Except NumberError α) : Building α :=
  result.mapError .number

/-- A value that has to be there. -/
def require {α : Type} (value : Option α) (error : BuildError) : Building α :=
  match value with
  | some value => .ok value
  | none => refuse error

/-- The column of the trips that has to be there. -/
def requireColumn (column : Option Column) (needed : Needed) : Building Reference := do
  let column ← require column (.missingColumn needed)
  pure (.fact column.name)

/-- The start of a trip. -/
def startReference (columns : List Column) : Building Reference :=
  requireColumn (startColumn columns) .start

/-! ## Resolving names -/

/-- Whether both names of a column can stand in a statement. -/
def isUsable (column : Column) : Bool :=
  isIdentifier column.name && isIdentifier column.table

/-- The column that a name stands for. -/
def resolve (columns : List Column) (role : Role) (name : Value) : Building Column :=
  match namedColumn columns name with
  | none => do refuse (.unknownColumn role (← numeric name.inspect))
  | some column =>
    if isUsable column then .ok column
    else do refuse (.unsupportedIdentifier role (← numeric name.inspect))

/-- The columns to group by; a ranking of groups is one of stations by default. -/
def groupColumns (columns : List Column) (aggregation : Aggregation) (names : List String) :
    Building (List Column) := do
  let resolved ← names.mapM fun name => resolve columns .groupBy (.text name)
  if resolved.isEmpty && aggregation == .max then
    let station ← require (stationNameColumn columns) .nothingToGroupBy
    pure [station]
  else
    pure resolved

/-- The filters with the columns that they are on. -/
def filterColumns (columns : List Column) (filters : List DraftFilter) :
    Building (List (DraftFilter × Column)) :=
  filters.mapM fun filter => do pure (filter, ← resolve columns .filter filter.column)

/-! ## SELECT list and joins -/

/-- Whether a column is a station's. -/
def ofStations (column : Column) : Bool :=
  column.inTable Dimension.stations.table

/-- A column to group by, as a member of the SELECT list. -/
def groupOutput (aggregation : Aggregation) (column : Column) : Output :=
  { expression := .column (.ofColumn column)
    label :=
      if aggregation = .max ∧ ofStations column ∧ column.name ≠ stationLabel then
        some stationLabel
      else
        none }

/-- The aggregate, as a member of the SELECT list. -/
def aggregateOutput (columns : List Column) : Aggregation → Building Output
  | .avg => do
    let first ← startReference columns
    let last ← requireColumn (endColumn columns) .finish
    pure { expression := .averageMinutes last first, label := some averageLabel }
  | .sum => do
    let distance ← requireColumn (distanceColumn columns) .distance
    pure { expression := .total distance, label := some distanceLabel }
  | .max => pure { expression := .countAll, label := some departuresLabel }
  | .count => pure { expression := .countAll, label := some countLabel }
  | .min => pure { expression := .countAll, label := some countLabel }

/-- The dimensions that some columns belong to, in the order in which they are joined. -/
def dimensionsOf (used : List Column) : List Dimension :=
  Dimension.all.filter fun dimension => used.any fun column => column.inTable dimension.table

/-- The join that brings in a dimension. -/
def joinOf (columns : List Column) : Dimension → Building Join
  | .stations => pure .stations
  | .weather => do pure (.weather (← startReference columns))
  | .users => pure .users

/-! ## Conditions -/

/-- A number as a literal. -/
def numberLiteral : Value → Building (List Char)
  | .float x => pure (x.textWith plainNames)
  | .int n => do pure (← numeric (writeInteger n)).toList
  | value => do refuse (.notNumeric (← numeric value.inspect))

/-- The members of a list or a tuple. -/
def members? : Value → Option (List Value)
  | .list items => some items
  | .tuple items => some items
  | _ => none

/-- The condition that a filter is, and its parameter if it takes the placeholder `number`. -/
def filterCondition (number : Nat) (filter : DraftFilter) (column : Column) :
    Building (Condition × Option Value) :=
  let target := Reference.ofColumn column
  match filter.operator with
  | .unknown value => do refuse (.unsupportedOperator (← numeric value.inspect))
  | .known .isIn => do
    let items ← require (members? filter.value) (.needsList column.name)
    if filter.parameterised then
      pure (.anyOf target number, some (.list items))
    else
      let literals ← items.mapM numberLiteral
      pure (.oneOf target literals, none)
  | .known operator =>
    if filter.parameterised then
      pure (.compare target operator (.placeholder number), some filter.value)
    else do
      let literal ← numberLiteral filter.value
      pure (.compare target operator (.literal literal), none)

/-- The conditions that filters are, with their parameters; `number` is the next placeholder. -/
def filterConditions (number : Nat) :
    List (DraftFilter × Column) → Building (List Condition × List Value)
  | [] => pure ([], [])
  | (filter, column) :: rest => do
    let (condition, parameter) ← filterCondition number filter column
    let next := if parameter.isSome then number + 1 else number
    let (conditions, parameters) ← filterConditions next rest
    pure (condition :: conditions, parameter.toList ++ parameters)

/-- Whether a text is shaped like a date, with digits of any script and a line break at most. -/
def isDateShaped (text : String) : Bool :=
  match dropLineEnd text.toList with
  | [y₁, y₂, y₃, y₄, '-', m₁, m₂, '-', d₁, d₂] =>
    [y₁, y₂, y₃, y₄, m₁, m₂, d₁, d₂].all isDecimalDigit
  | _ => false

/-- Refuses a text that is not shaped like a date. -/
def checkDate (text : String) : Building Unit :=
  if isDateShaped text then pure () else refuse (.malformedDate text)

/-- The number that a run of digits stands for, if it is one. -/
def digitsNumber (text : String) (error : BuildError) : Building Nat :=
  if allDigitLike text.toList then do
    pure (← numeric (readInteger text.toList)).toNat
  else
    refuse error

/-- The number of a month. -/
def readMonth (text : String) : Building Nat := do
  let month ← digitsNumber text (.malformedMonth text)
  if 1 ≤ month ∧ month ≤ 12 then pure month else refuse (.malformedMonth text)

/-- The number of a year in four digits. -/
def readYear (text : String) : Building Nat :=
  if allDigitLike text.toList && text.length == 4 then
    digitsNumber text (.malformedYear text)
  else
    refuse (.malformedYear text)

/-- The condition on the month of a start, if a month is asked for. -/
def monthCondition (start : Reference) : Option String → Building (List Condition)
  | some text => do pure [.inMonth start (← readMonth text)]
  | none => pure []

/-- The condition on the year of a start, if a year is asked for. -/
def yearCondition (start : Reference) : Option String → Building (List Condition)
  | some text => do pure [.inYear start (← readYear text)]
  | none => pure []

/-- The conditions that a date range is: its bounds, or else its month and its year. -/
def dateConditions (columns : List Column) (range : DateRange) : Building (List Condition) :=
  match range.bounds? with
  | some (first, last) => do
    checkDate first
    checkDate last
    pure [.between (← startReference columns) first last]
  | none =>
    let month := nonempty? range.specificMonth
    let year := nonempty? range.specificYear
    if month.isNone && year.isNone then
      pure []
    else do
      let start ← startReference columns
      let inMonth ← monthCondition start month
      let inYear ← yearCondition start year
      pure (inMonth ++ inYear)

/-- The conditions that an optional date range is. -/
def optionalDateConditions (columns : List Column) : Option DateRange →
    Building (List Condition)
  | some range => dateConditions columns range
  | none => pure []

/-! ## Queries -/

/-- A statement with the parameters that are passed beside it. -/
structure Bound where
  statement : Statement
  parameters : List Value

/-- The aggregation of a draft. -/
def knownAggregation : Choice Aggregation → Building Aggregation
  | .known aggregation => pure aggregation
  | .unknown value => do refuse (.unsupportedAggregation (← numeric value.inspect))

/-- The statement of a draft and its parameters, before the text is checked. -/
def bind (draft : Draft) (columns : List Column) : Building Bound := do
  let aggregation ← knownAggregation draft.aggregation
  let groups ← groupColumns columns aggregation draft.groupBy
  let filters ← filterColumns columns draft.filters
  let aggregate ← aggregateOutput columns aggregation
  let used := filters.map Prod.snd ++ groups
  let joins ← (dimensionsOf used).mapM (joinOf columns)
  let (conditions, parameters) ← filterConditions 1 filters
  let dates ← optionalDateConditions columns draft.dateRange
  pure
    { statement :=
        { outputs := groups.map (groupOutput aggregation) ++ [aggregate]
          joins
          conditions := conditions ++ dates
          groupBy := groups.map Column.name
          topOnly := aggregation == .max && groups.any ofStations }
      parameters }

/-- Refuses a text whose placeholders do not match its parameters, or that is no SQL. -/
def checkText (wellFormed : List Char → Bool) (text : List Char) (parameters : List Value) :
    Building Unit := do
  let count ← numeric (placeholderCount text)
  if count ≠ parameters.length then refuse .placeholderMismatch
  else if !wellFormed (withoutPlaceholders text) then refuse .illFormed
  else pure ()

/-- A finished query: its text, its parameters and what it computes, in words. -/
structure Generated where
  statement : Statement
  parameters : List Value
  explanation : String

/-- The text of a query. -/
def Generated.sql (generated : Generated) : String :=
  String.ofList generated.statement.text

/-- The query of a draft, its text being checked by a given recogniser of SQL. -/
def buildWith (wellFormed : List Char → Bool) (draft : Draft) (columns : List Column) :
    Building Generated := do
  let bound ← bind draft columns
  checkText wellFormed bound.statement.text bound.parameters
  let explanation ← numeric (explain draft columns)
  pure { statement := bound.statement, parameters := bound.parameters, explanation }

end RideQuery.Query
