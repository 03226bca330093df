import RideQuery.Intent
import RideQuery.Schema.Profile

/-!
# Statements

The one shape of statement that questions are answered by: an aggregate over the
trips, with the dimension tables that are needed joined to them.  A statement is
kept as data, and its text is written last.
-/

namespace RideQuery.Query

open RideQuery.Schema

/-- A column named together with the short name of its table. -/
structure Reference where
  qualifier : String
  name : String
  deriving DecidableEq

/-- A column as the member of its table. -/
def Reference.ofColumn (column : Column) : Reference :=
  { qualifier := aliasOf column.table, name := column.name }

/-- The text of a reference. -/
def Reference.text (reference : Reference) : List Char :=
  reference.qualifier.toList ++ '.' :: reference.name.toList

/-- A column of the trips by its name. -/
def Reference.fact (name : String) : Reference :=
  { qualifier := factAlias, name }

/-! ## Selected expressions -/

/-- An expression of the SELECT list. -/
inductive Expression where
  | column (reference : Reference)
  | countAll
  | averageMinutes (last first : Reference)
  | total (reference : Reference)
  deriving DecidableEq

/-- The text of an expression. -/
def Expression.text : Expression → List Char
  | .column reference => reference.text
  | .countAll => "COUNT(*)".toList
  | .averageMinutes last first =>
    "AVG(EXTRACT(EPOCH FROM (".toList ++ last.text ++ " - ".toList ++ first.text ++
      "))/60)".toList
  | .total reference => "SUM(".toList ++ reference.text ++ ")".toList

/-- A member of the SELECT list, possibly under a name of its own. -/
structure Output where
  expression : Expression
  label : Option String
  deriving DecidableEq

/-- The text of a member of the SELECT list. -/
def Output.text (output : Output) : List Char :=
  match output.label with
  | some label => output.expression.text ++ " AS ".toList ++ label.toList
  | none => output.expression.text

/-! ## Joins -/

/-- A dimension joined to the trips; the weather goes by the day on which a trip started. -/
inductive Join where
  | stations
  | weather (start : Reference)
  | users
  deriving DecidableEq

/-- The dimension that a join brings in. -/
def Join.dimension : Join → Dimension
  | .stations => .stations
  | .weather _ => .weather
  | .users => .users

/-- The day on which a moment falls. -/
def dayOf (reference : Reference) : List Char :=
  "DATE(".toList ++ reference.text ++ ")".toList

/-- The text of a join. -/
def Join.text : Join → List Char
  | .stations => "JOIN stations s ON t.start_station_id = s.station_id".toList
  | .weather start =>
    "JOIN daily_weather w ON ".toList ++ dayOf start ++ " = w.weather_date".toList
  | .users => "JOIN users u ON t.user_id = u.user_id".toList

/-! ## Conditions -/

/-- What a column is compared with: a placeholder by its number, or a numeric literal. -/
inductive Operand where
  | placeholder (number : Nat)
  | literal (text : List Char)
  deriving DecidableEq

/-- The text of a placeholder. -/
def placeholderText (number : Nat) : List Char :=
  '$' :: (Nat.repr number).toList

/-- The text of an operand. -/
def Operand.text : Operand → List Char
  | .placeholder number => placeholderText number
  | .literal text => text

/-- A condition that trips have to meet. -/
inductive Condition where
  /-- A comparison with one value. -/
  | compare (target : Reference) (operator : Operator) (operand : Operand)
  /-- Membership in a list that is passed beside the statement. -/
  | anyOf (target : Reference) (number : Nat)
  /-- Membership in a list of literals. -/
  | oneOf (target : Reference) (literals : List (List Char))
  /-- A start between two days. -/
  | between (start : Reference) (first last : String)
  /-- A start in a month. -/
  | inMonth (start : Reference) (month : Nat)
  /-- A start in a year. -/
  | inYear (start : Reference) (year : Nat)
  deriving DecidableEq

/-- Texts with a comma and a blank between them. -/
def listed (texts : List (List Char)) : List Char :=
  ", ".toList.intercalate texts

/-- A text as a literal; no text that is written so holds a quote. -/
def quotedLiteral (text : String) : List Char :=
  "'".toList ++ text.toList ++ "'".toList

/-- The text of a condition. -/
def Condition.text : Condition → List Char
  | .compare target operator operand =>
    target.text ++ ' ' :: (Worded.wording operator).toList ++ ' ' :: operand.text
  | .anyOf target number =>
    target.text ++ " = ANY(".toList ++ placeholderText number ++ ")".toList
  | .oneOf target literals => target.text ++ " IN (".toList ++ listed literals ++ ")".toList
  | .between start first last =>
    dayOf start ++ " BETWEEN ".toList ++ quotedLiteral first ++ " AND ".toList ++
      quotedLiteral last
  | .inMonth start month =>
    "EXTRACT(MONTH FROM ".toList ++ start.text ++ ") = ".toList ++ (Nat.repr month).toList
  | .inYear start year =>
    "EXTRACT(YEAR FROM ".toList ++ start.text ++ ") = ".toList ++ (Nat.repr year).toList

/-! ## Statements -/

/-- The name of an average. -/
def averageLabel : String := "average_minutes"

/-- The name of a count. -/
def countLabel : String := "total_count"

/-- The name of a total distance. -/
def distanceLabel : String := "total_kilometers"

/-- The name of a count of departures. -/
def departuresLabel : String := "departure_count"

/-- The name of a station in a ranking of stations. -/
def stationLabel : String := "station_name"

/-- An aggregate over the trips. -/
structure Statement where
  outputs : List Output
  joins : List Join
  conditions : List Condition
  groupBy : List String
  /-- Whether only the group with the most departures is wanted. -/
  topOnly : Bool
  deriving DecidableEq

namespace Statement

/-- The SELECT list and the table of facts. -/
def headText (statement : Statement) : List Char :=
  "SELECT ".toList ++ listed (statement.outputs.map Output.text) ++ " FROM ".toList ++
    factTable.toList ++ ' ' :: factAlias.toList

/-- The joined tables. -/
def joinText (statement : Statement) : List Char :=
  statement.joins.flatMap fun join => ' ' :: join.text

/-- The conditions. -/
def whereText (statement : Statement) : List Char :=
  if statement.conditions.isEmpty then []
  else " WHERE ".toList ++ " AND ".toList.intercalate (statement.conditions.map Condition.text)

/-- The grouping. -/
def groupText (statement : Statement) : List Char :=
  if statement.groupBy.isEmpty then []
  else " GROUP BY ".toList ++ listed (statement.groupBy.map String.toList)

/-- The order, and the restriction to the first group. -/
def orderText (statement : Statement) : List Char :=
  if statement.topOnly then
    " ORDER BY ".toList ++ departuresLabel.toList ++ " DESC LIMIT 1".toList
  else
    []

/-- The text of a statement. -/
def text (statement : Statement) : List Char :=
  statement.headText ++ statement.joinText ++ statement.whereText ++ statement.groupText ++
    statement.orderText

end Statement

end RideQuery.Query
