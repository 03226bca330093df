import RideQuery.Text.Case
import RideQuery.Text.Search

/-!
# Columns

A column of the catalog: the table it belongs to, its name, its data type and
whether it may be null.  Columns are recognised by markers, which are short texts
that occur in the lower-case form of a name or of a data type.
-/

namespace RideQuery.Schema

open RideQuery.Text

/-- A column of a table. -/
structure Column where
  table : String
  name : String
  dataType : Option String
  nullable : Bool
  deriving DecidableEq

/-- Whether one of some markers occurs in a text. -/
def hasMarker (markers : List String) (text : List Char) : Bool :=
  markers.any fun marker => occursIn marker.toList text

/-- The markers of numeric data types. -/
def numericTypes : List String :=
  ["numeric", "integer", "bigint", "smallint", "decimal", "double", "real", "float"]

/-- The markers of data types that a filter can sensibly be put on. -/
def filterableTypes : List String :=
  ["character", "timestamp", "date", "boolean"]

/-- The markers of textual data types. -/
def textualTypes : List String :=
  ["character", "text", "varchar"]

/-- The markers of data types that hold a moment or a day. -/
def timeTypes : List String :=
  ["timestamp", "date", "time"]

/-- The markers of truth values. -/
def booleanTypes : List String :=
  ["boolean", "bit"]

namespace Column

/-- The name of a column with its table in front. -/
def qualified (column : Column) : String :=
  column.table ++ "." ++ column.name

/-- The name of a column in lower case. -/
def lowerName (column : Column) : List Char :=
  lower column.name.toList

/-- The name of a column's table in lower case. -/
def lowerTable (column : Column) : List Char :=
  lower column.table.toList

/-- The data type of a column in lower case, empty if it has none. -/
def lowerType (column : Column) : List Char :=
  lower (column.dataType.getD "").toList

/-- Whether the name of a column holds one of some markers. -/
def named (markers : List String) (column : Column) : Bool :=
  hasMarker markers column.lowerName

/-- Whether the data type of a column holds one of some markers. -/
def typed (markers : List String) (column : Column) : Bool :=
  hasMarker markers column.lowerType

/-- Whether a column belongs to a table. -/
def inTable (table : String) (column : Column) : Bool :=
  column.table == table

end Column

/-- The first column with a given name, whatever its table. -/
def findColumn (columns : List Column) (name : String) : Option Column :=
  columns.find? fun column => column.name == name

theorem findColumn_name {columns : List Column} {name : String} {column : Column}
    (found : findColumn columns name = some column) : column.name = name := by
  simpa using List.find?_some found

theorem findColumn_mem {columns : List Column} {name : String} {column : Column}
    (found : findColumn columns name = some column) : column ∈ columns :=
  List.mem_of_find?_eq_some found

end RideQuery.Schema
