import RideQuery.Schema.Column

/-!
# Cache of the schema

The columns of a schema, grouped by table and kept for a while.  Time is any type
with a difference and an order, so that the cache can be run on a clock's readings
and reasoned about on exact numbers.  A load that fails leaves the cache as it was.
-/

namespace RideQuery.Schema

/-- Tables with their columns, in the order in which they first appear. -/
abbrev Tables := List (String × List Column)

namespace Tables

/-- Puts a column behind those of its table. -/
def add (column : Column) : Tables → Tables
  | [] => [(column.table, [column])]
  | (table, columns) :: rest =>
    if table == column.table then (table, columns ++ [column]) :: rest
    else (table, columns) :: add column rest

/-- Columns grouped by table. -/
def group (columns : List Column) : Tables :=
  columns.foldl (fun tables column => tables.add column) []

/-- The names of the tables. -/
def names (tables : Tables) : List String :=
  tables.map Prod.fst

/-- The columns of a table, none if there is no such table. -/
def columnsOf (tables : Tables) (table : String) : List Column :=
  (tables.lookup table).getD []

/-- The columns of all tables, table by table. -/
def columns (tables : Tables) : List Column :=
  tables.flatMap Prod.snd

end Tables

/-- The columns that were loaded last, with the time at which loading them began. -/
structure Cache (τ : Type) where
  lifetime : τ
  tables : Tables
  loadedAt : Option τ

namespace Cache

variable {τ : Type}

/-- A cache that nothing was loaded into. -/
def new (lifetime : τ) : Cache τ :=
  { lifetime, tables := [], loadedAt := none }

/-- Whether the columns have to be loaded before they are looked at. -/
def isStale [Sub τ] [LT τ] [DecidableLT τ] (cache : Cache τ) (now : τ) : Bool :=
  match cache.loadedAt with
  | none => true
  | some loadedAt => cache.lifetime < now - loadedAt

/-- The cache after columns were loaded, where loading began at a time. -/
def store (cache : Cache τ) (began : τ) (columns : List Column) : Cache τ :=
  { cache with tables := .group columns, loadedAt := some began }

end Cache

end RideQuery.Schema
