import RideQuery.Answer.Process
import RideQuery.Schema.Catalog

/-!
# Sessions

Sequences of events around one catalog: time passes, the schema changes, loading
begins to fail, to take longer or recovers, the catalog is looked at, and questions
are answered from it.
-/

namespace RideQuery.Answer

open RideQuery.Number RideQuery.Schema RideQuery.Calendar RideQuery.Question

/-- A question with everything its answer depends on beside the catalog. -/
structure Ask where
  asked : Asked
  today : Date
  executor : Executor
  started : Binary64
  ended : Binary64

/-- One event of a session. -/
inductive Step (τ : Type) where
  /-- Time passes. -/
  | tick (duration : τ)
  /-- The columns at the source change. -/
  | change (columns : List Column)
  /-- Loading begins to fail, or recovers. -/
  | breakdown (fault : Option Fault)
  /-- Loads begin to take another time. -/
  | pace (cost : τ)
  | refresh
  | tables
  | tableNames
  | columnsOf (table : String)
  | allColumns
  /-- Each of the three lists is looked at, and the copies are thrown away. -/
  | browse (table : String)
  | ask (question : Ask)

/-- What a step shows. -/
inductive Shown where
  | nothing
  | tables (tables : Tables)
  | names (names : List String)
  | columns (columns : List Column)
  | run (run : Run)

variable {τ : Type} [Add τ] [Sub τ] [LT τ] [DecidableLT τ]

/-- Looks at the three lists one after the other, up to the first failure. -/
def lookThrough (table : String) (catalog : Catalog τ) : Except Fault Unit × Catalog τ :=
  match catalog.tableNames with
  | (.error fault, catalog) => (.error fault, catalog)
  | (.ok _, catalog) =>
    match catalog.columnsOf table with
    | (.error fault, catalog) => (.error fault, catalog)
    | (.ok _, catalog) =>
      let (result, catalog) := catalog.allColumns
      (result.map fun _ => (), catalog)

/-- A look at a catalog as what it shows. -/
def showing {α : Type} (shown : α → Shown) (look : Except Fault α × Catalog τ) :
    Except Fault Shown × Catalog τ :=
  (look.1.map shown, look.2)

/-- Answers a question from a catalog. -/
def askCatalog (wellFormed : List Char → Bool) (ask : Ask) (catalog : Catalog τ) :
    Run × Catalog τ :=
  let (columns, catalog) := catalog.allColumns
  (run wellFormed ask.executor (columns.mapError Failure.fault) ask.today ask.asked ask.started
    ask.ended, catalog)

/-- What a step shows, and the catalog after it. -/
def Step.perform (wellFormed : List Char → Bool) (step : Step τ) (catalog : Catalog τ) :
    Except Fault Shown × Catalog τ :=
  match step with
  | .tick duration =>
    (.ok .nothing,
      { catalog with source.clock := catalog.source.clock + duration })
  | .change columns => (.ok .nothing, { catalog with source.columns := columns })
  | .breakdown fault => (.ok .nothing, { catalog with source.fault := fault })
  | .pace cost => (.ok .nothing, { catalog with source.cost := cost })
  | .refresh => showing .tables catalog.refresh
  | .tables => showing .tables catalog.tables
  | .tableNames => showing .names catalog.tableNames
  | .columnsOf table => showing .columns (catalog.columnsOf table)
  | .allColumns => showing .columns catalog.allColumns
  | .browse table => showing (fun _ => .nothing) (lookThrough table catalog)
  | .ask question =>
    let (run, catalog) := askCatalog wellFormed question catalog
    (.ok (.run run), catalog)

/-- What some steps show one after the other, each with the catalog after it. -/
def performAll (wellFormed : List Char → Bool) :
    List (Step τ) → Catalog τ → List (Except Fault Shown × Catalog τ)
  | [], _ => []
  | step :: rest, catalog =>
    let (shown, catalog) := step.perform wellFormed catalog
    (shown, catalog) :: performAll wellFormed rest catalog

end RideQuery.Answer
