import RideQuery.Fault
import RideQuery.Schema.Cache

/-!
# Catalog

A cached schema together with the place its columns come from and the clock that
its age is measured by.  Loading takes time and may fail; every look at the schema
loads it first if it is stale.
-/

namespace RideQuery.Schema

/-- A load that succeeded: when it began, and the columns that it gave. -/
structure Load (τ : Type) where
  began : τ
  columns : List Column

/-- Where columns are loaded from, and the clock beside it. -/
structure Source (τ : Type) where
  clock : τ
  columns : List Column
  fault : Option Fault
  /-- How long a load takes. -/
  cost : τ
  /-- How often columns were loaded, failures included. -/
  loads : Nat
  /-- The loads that succeeded, the latest first. -/
  succeeded : List (Load τ) := []

/-- A cache with the source behind it. -/
structure Catalog (τ : Type) where
  cache : Cache τ
  source : Source τ

variable {τ : Type}

namespace Source

/-- A load: it is counted, takes its time, and then fails or gives the columns. -/
def load [Add τ] (source : Source τ) : Except Fault (List Column) × Source τ :=
  let after := { source with loads := source.loads + 1, clock := source.clock + source.cost }
  match source.fault with
  | some fault => (.error fault, after)
  | none =>
    let given : Load τ := { began := source.clock, columns := source.columns }
    (.ok source.columns, { after with succeeded := given :: source.succeeded })

end Source

namespace Catalog

/-- Loads the columns, whether they are stale or not. -/
def refresh [Add τ] (catalog : Catalog τ) : Except Fault Tables × Catalog τ :=
  match catalog.source.load with
  | (.error fault, source) => (.error fault, { catalog with source })
  | (.ok columns, source) =>
    let cache := catalog.cache.store catalog.source.clock columns
    (.ok cache.tables, { cache, source })

variable [Add τ] [Sub τ] [LT τ] [DecidableLT τ]

/-- The tables, loaded first if they are stale. -/
def tables (catalog : Catalog τ) : Except Fault Tables × Catalog τ :=
  if catalog.cache.isStale catalog.source.clock then catalog.refresh
  else (.ok catalog.cache.tables, catalog)

/-- A look at the tables. -/
def look {α : Type} (view : Tables → α) (catalog : Catalog τ) : Except Fault α × Catalog τ :=
  let (result, catalog) := catalog.tables
  (result.map view, catalog)

/-- The names of the tables. -/
def tableNames (catalog : Catalog τ) : Except Fault (List String) × Catalog τ :=
  catalog.look Tables.names

/-- The columns of a table. -/
def columnsOf (table : String) (catalog : Catalog τ) : Except Fault (List Column) × Catalog τ :=
  catalog.look fun tables => tables.columnsOf table

/-- The columns of all tables. -/
def allColumns (catalog : Catalog τ) : Except Fault (List Column) × Catalog τ :=
  catalog.look Tables.columns

end Catalog

end RideQuery.Schema
