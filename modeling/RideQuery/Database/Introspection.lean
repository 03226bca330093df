import RideQuery.Database.Execution

/-!
# Introspection

Reading the columns of a schema from a database.  What the database answers is
taken as it is; only whether a column may be null is interpreted.
-/

namespace RideQuery.Database

open RideQuery.Text RideQuery.Number

/-- A column as a database describes it. -/
structure LoadedColumn where
  table : Value
  name : Value
  dataType : Value
  nullable : Bool

/-- The statement that lists the columns of a schema. -/
def columnsStatement : String :=
  "SELECT c.table_name, c.column_name, c.data_type, c.is_nullable " ++
    "FROM information_schema.columns c WHERE c.table_schema = :schema " ++
    "ORDER BY c.table_name, c.ordinal_position"

/-- The call that lists the columns of a schema. -/
def columnsCall (schema : String) : Call :=
  { text := columnsStatement, binds := [(.text "schema", .text schema)] }

/-- Whether a text is `yes` in any case. -/
def meansYes (text : List Char) : Bool :=
  match dropFolded "yes".toList text with
  | some (_, left) => left.isEmpty
  | none => false

/-- The value in a column of a row. -/
def field (row : Dict) (name : String) : Except Failure Value :=
  match Value.lookup? row name with
  | some value => .ok value
  | none => .error (.missingKey name)

/-- The column that a row describes. -/
def LoadedColumn.ofRow (row : Dict) : Except Failure LoadedColumn := do
  let table ← field row "table_name"
  let name ← field row "column_name"
  let dataType ← field row "data_type"
  let answer ← field row "is_nullable"
  let shown ← answer.plain.mapError Failure.number
  pure { table, name, dataType, nullable := meansYes shown.toList }

/-- The columns that an answer of a database describes. -/
def columnsOf (answer : Except Fault Table) : Except Failure (List LoadedColumn) := do
  let table ← answer.mapError Failure.fault
  table.records.mapM LoadedColumn.ofRow

/-- The columns of a schema. -/
def loadColumns (engine : Engine) (schema : String) :
    Traced Call (Except Failure (List LoadedColumn)) :=
  ((Dialogue.call (columnsCall schema)).map columnsOf).hold engine

end RideQuery.Database
