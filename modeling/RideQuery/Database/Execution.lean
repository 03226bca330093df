import RideQuery.Dialogue
import RideQuery.Failure
import RideQuery.Sql.Guard

/-!
# Execution

Running SQL text against a database.  The database is a function from a statement
with its binds to a table or a fault.  It is consulted in a dialogue, so that it can be
seen what a database was asked and that a refused text never reaches it.
-/

namespace RideQuery.Database

open RideQuery.Sql RideQuery.Number

/-- A statement that is handed to a database, with the values of its names. -/
structure Call where
  text : String
  binds : Dict

/-- The names of columns, and rows of values in their order. -/
structure Table where
  columns : List String
  rows : List (List Value)

/-- What a database makes of a call. -/
abbrev Engine := Call → Except Fault Table

/-- A dialogue with a database. -/
abbrev Consultation (α : Type) := Dialogue Call (Except Fault Table) α

/-- A row as a record; a repeated name keeps its first place and gets the last value. -/
def record (columns : List String) (row : List Value) : Dict :=
  Value.ofEntries ((columns.map Value.text).zip row)

/-- The rows of a table as records. -/
def Table.records (table : Table) : List Dict :=
  table.rows.map (record table.columns)

/-- What is reported about an execution. -/
structure Outcome where
  ok : Bool
  columns : List String
  rows : List Dict
  rowCount : Nat
  error : Option String

namespace Outcome

/-- An execution that came to nothing. -/
def failed (message : String) : Outcome :=
  { ok := false, columns := [], rows := [], rowCount := 0, error := some message }

/-- An execution that gave a table. -/
def ofTable (table : Table) : Outcome :=
  { ok := true
    columns := table.columns
    rows := table.records
    rowCount := table.records.length
    error := none }

/-- The record of an execution. -/
def toValue (outcome : Outcome) : Value :=
  .dict
    [(.text "ok", .bool outcome.ok),
      (.text "columns", .list (outcome.columns.map .text)),
      (.text "rows", .list (outcome.rows.map .dict)),
      (.text "rowcount", .int outcome.rowCount),
      (.text "error", .ofOption outcome.error)]

end Outcome

/-- The call that a text which only reads leads to. -/
def callFor (sql : String) (binds : Dict) (limit : Option Int) : Except NumberError Call := do
  pure { text := String.ofList (← statementOf limit sql.toList), binds }

/-- A number that cannot be written, as a fault. -/
def numberFault (error : NumberError) : Fault :=
  { kind := .value, message := some error.message }

/-- What becomes of a database's answer: its own faults are reported and others go on. -/
def settle : Except Fault Table → Except Fault Outcome
  | .ok table => .ok (.ofTable table)
  | .error fault => if fault.kind.isFromDatabase then .ok (.failed fault.text) else .error fault

/-- What a database is asked for a text that only reads. -/
def consultation (sql : String) (binds : Dict) (limit : Option Int) :
    Consultation (Except Fault Outcome) :=
  if isReadOnly sql.toList then
    match callFor sql binds limit with
    | .error error => .done (.error (numberFault error))
    | .ok call => (Dialogue.call call).map settle
  else
    .done (.ok (.failed refusalMessage))

/-- Runs a text that only reads. -/
def run (engine : Engine) (sql : String) (binds : Dict) (limit : Option Int) :
    Traced Call (Except Fault Outcome) :=
  (consultation sql binds limit).hold engine

/-! ## Queries with positional parameters -/

/-- What a failed execution is reported with if the database has no words for it. -/
def failureMessage : String := "Query execution failed"

/-- The rows of an execution, or its failure. -/
def rowsOf : Except Fault Outcome → Except Failure (List Dict)
  | .error fault => .error (.fault fault)
  | .ok outcome =>
    if outcome.ok then .ok outcome.rows
    else .error (.execution ((nonempty? outcome.error).getD failureMessage))

/-- What a database is asked for a text with positional placeholders. -/
def positional (limit : Option Int) (sql : String) (parameters : List Value) :
    Consultation (Except Failure (List Dict)) :=
  match bindNames defaultStem sql.toList parameters with
  | .error error => .done (.error (.execution error.message))
  | .ok named => (consultation (String.ofList named.text) named.binds limit).map rowsOf

/-- Runs a text with positional placeholders and returns its rows. -/
def execute (engine : Engine) (limit : Option Int) (sql : String) (parameters : List Value) :
    Traced Call (Except Failure (List Dict)) :=
  (positional limit sql parameters).hold engine

end RideQuery.Database
