import RideQuery.Schema.Column

/-!
# Table profile

What is known in advance about the tables: trips are the facts that every query
counts or measures, and three dimension tables can be joined to them.  Everything
else, such as which column holds the start of a trip, is found by its name and
data type.
-/

namespace RideQuery.Schema

/-- The table of facts. -/
def factTable : String := "trips"

/-- The name that the table of facts goes by in a query. -/
def factAlias : String := "t"

/-- A table that can be joined to the facts. -/
inductive Dimension where
  | stations
  | weather
  | users
  deriving DecidableEq

namespace Dimension

/-- The dimensions in the order in which they are joined. -/
def all : List Dimension :=
  [.stations, .weather, .users]

/-- The name of the table. -/
def table : Dimension → String
  | .stations => "stations"
  | .weather => "daily_weather"
  | .users => "users"

/-- The name that the table goes by in a query. -/
def shortName : Dimension → String
  | .stations => "s"
  | .weather => "w"
  | .users => "u"

/-- The dimension that a table is, if it is one. -/
def ofTable? (table : String) : Option Dimension :=
  all.find? fun dimension => dimension.table == table

@[simp]
theorem ofTable?_table (dimension : Dimension) : ofTable? dimension.table = some dimension := by
  cases dimension <;> decide

end Dimension

/-- The name that a table goes by in a query; an unknown table is taken for the facts. -/
def aliasOf (table : String) : String :=
  match Dimension.ofTable? table with
  | some dimension => dimension.shortName
  | none => factAlias

@[simp]
theorem aliasOf_table (dimension : Dimension) : aliasOf dimension.table = dimension.shortName := by
  simp [aliasOf]

/-! ## Columns with a role -/

/-- Markers of a display name. -/
def displayNameMarkers : List String := ["name", "title"]

/-- Markers of a distance. -/
def distanceMarkers : List String := ["distance", "km", "length", "miles"]

/-- Markers of a rider's gender. -/
def genderMarkers : List String := ["gender", "sex"]

/-- The first trip column whose name and data type hold markers of the given kinds. -/
def factColumn (names types : List String) (columns : List Column) : Option Column :=
  columns.find? fun column =>
    column.inTable factTable && (column.named names && column.typed types)

/-- The column that holds the start of a trip. -/
def startColumn (columns : List Column) : Option Column :=
  factColumn ["start"] timeTypes columns

/-- The column that holds the end of a trip. -/
def endColumn (columns : List Column) : Option Column :=
  factColumn ["end"] timeTypes columns

/-- The column that holds the distance of a trip. -/
def distanceColumn (columns : List Column) : Option Column :=
  factColumn distanceMarkers numericTypes columns

/-- Whether a column of the stations looks like a display name. -/
def isStationName (column : Column) : Bool :=
  column.inTable Dimension.stations.table && column.named displayNameMarkers

/-- The column that holds the name of a station, a textual one if possible. -/
def stationNameColumn (columns : List Column) : Option Column :=
  match columns.find? fun column => isStationName column && column.typed textualTypes with
  | some column => some column
  | none => columns.find? isStationName

/-- Whether a column holds a rider's gender. -/
def isGenderColumn (column : Column) : Bool :=
  column.named genderMarkers

end RideQuery.Schema
