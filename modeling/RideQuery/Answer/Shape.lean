import RideQuery.Query.Statement
import RideQuery.Value.Display

/-!
# Shapes of answers

What is made of the rows of a query.  A single row that holds a known aggregate
becomes the aggregate with a text to show; any other rows are passed on.
-/

namespace RideQuery.Answer

open RideQuery.Number RideQuery.Query

/-- The double-precision number that a value stands for. -/
def toNumber : Value → Except NumberError Binary64
  | .bool b => .ok (if b then 1 else 0)
  | .int n => Binary64.ofInt n
  | .float x => .ok x
  | .text s => Binary64.read s.toList
  | .decimal d => d.toBinary64
  | value => .error (.notNumeric value.qualifiedTypeName)

/-- The number that a value stands for, null standing for none. -/
def number? : Value → Except NumberError (Option Binary64)
  | .null => .ok none
  | value => (toNumber value).map some

/-- The aggregates that are known by the name of their column. -/
inductive Shape where
  | average
  | distance
  | station
  | count
  deriving DecidableEq

namespace Shape

/-- The shapes in the order in which they are looked for. -/
def all : List Shape :=
  [.average, .distance, .station, .count]

/-- The column that a shape goes by. -/
def label : Shape → String
  | .average => averageLabel
  | .distance => distanceLabel
  | .station => stationLabel
  | .count => countLabel

/-- The key of the text to show. -/
def shownKey : String := "formatted_result"

/-- An aggregate with a text to show. -/
def shown (label : String) (value text : Value) : Value :=
  .dict [(.text label, value), (.text shownKey, text)]

/-- An average in whole minutes. -/
def ofAverage (value : Value) : Except NumberError Value := do
  match ← number? value with
  | none => pure (shown averageLabel .null (.text "No matching rides"))
  | some minutes =>
    let rounded ← minutes.round
    pure (shown averageLabel (.int rounded) (.text (integerText rounded ++ " minutes")))

/-- A number in place of none, and in place of any nought. -/
def orZero : Option Binary64 → Binary64
  | none => 0
  | some x => if x.isZero then 0 else x

/-- A distance in kilometres to one place. -/
def ofDistance (value : Value) : Except NumberError Value := do
  let kilometres := (orZero (← number? value)).roundToTenth
  pure (shown distanceLabel (.float kilometres)
    (.text (String.ofList (kilometres.fixed 1) ++ " km")))

/-- A station with its departures, null if they are not in the row. -/
def ofStation (value : Value) (departures : Option Value) : Value :=
  .dict
    [(.text stationLabel, value), (.text departuresLabel, departures.getD .null),
      (.text shownKey, value)]

/-- A count. -/
def ofCount (value : Value) : Except NumberError Value := do
  pure (shown countLabel value (.text (← value.plain)))

/-- A row that holds a value under the label of a shape. -/
def apply (shape : Shape) (value : Value) (row : Dict) : Except NumberError Value :=
  match shape with
  | .average => ofAverage value
  | .distance => ofDistance value
  | .station => .ok (ofStation value (Value.lookup? row departuresLabel))
  | .count => ofCount value

/-- The first shape whose label is in a row, and the value under it. -/
def find? (row : Dict) : Option (Shape × Value) :=
  all.findSome? fun shape => (Value.lookup? row shape.label).map fun value => (shape, value)

end Shape

/-- Rows as they are. -/
def rawRows (rows : List Dict) : Value :=
  .list (rows.map .dict)

/-- The answer that rows give. -/
def ofRows (rows : List Dict) : Except NumberError Value :=
  match rows with
  | [row] =>
    match Shape.find? row with
    | some (shape, value) => shape.apply value row
    | none => .ok (rawRows rows)
  | _ => .ok (rawRows rows)

end RideQuery.Answer
