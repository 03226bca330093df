import RideQuery.Proofs.Fallible
import RideQuery.Proofs.Schema.Loading

/-!
# Catalogs as snapshots

A catalog that began with nothing loaded holds what the latest load that succeeded gave, with
the time at which that load began, and nothing else.  So whether a look at it loads the
columns first depends only on that load and on the clock, and what the look shows is made
from the columns of one load.
-/

namespace RideQuery.Schema

variable {τ : Type}

/-- The cache that a load leaves behind, a new one if nothing was loaded. -/
def Cache.holding (lifetime : τ) : Option (Load τ) → Cache τ
  | none => .new lifetime
  | some load => (Cache.new lifetime).store load.began load.columns

/-- Sources whose columns are due: they were never loaded, or too long ago. -/
inductive Source.IsDue [Sub τ] [LT τ] (lifetime : τ) (source : Source τ) : Prop
  | never (none : source.succeeded = [])
  | expired {load : Load τ} (latest : source.succeeded.head? = some load)
      (old : lifetime < source.clock - load.began)

namespace Catalog

/-- Catalogs that hold the latest load that succeeded. -/
def IsSnapshot (lifetime : τ) (catalog : Catalog τ) : Prop :=
  catalog.cache = .holding lifetime catalog.source.succeeded.head?

/-- A catalog in front of a source that nothing was loaded from yet. -/
def new (lifetime : τ) (source : Source τ) : Catalog τ :=
  { cache := .new lifetime, source := { source with succeeded := [] } }

theorem isSnapshot_new (lifetime : τ) (source : Source τ) :
    (new lifetime source).IsSnapshot lifetime :=
  rfl

variable {catalog : Catalog τ} {lifetime : τ}

/-! ## Loads -/

/-- Loading keeps a snapshot: a failure changes neither side, and a success both alike. -/
theorem IsSnapshot.refresh [Add τ] (snapshot : catalog.IsSnapshot lifetime) :
    catalog.refresh.2.IsSnapshot lifetime := by
  cases raised : catalog.source.fault with
  | some fault =>
      rw [refresh_of_raises raised]
      exact snapshot
  | none =>
      rw [refresh_of_works raised, IsSnapshot, afterSuccess, snapshot]
      cases catalog.source.succeeded.head? <;> rfl

/-- What a load shows comes from the load that has become the latest one. -/
theorem exists_of_refresh_eq_ok [Add τ] {tables : Tables}
    (shown : catalog.refresh.1 = .ok tables) :
    ∃ load, catalog.refresh.2.source.succeeded.head? = some load ∧
      tables = .group load.columns := by
  cases raised : catalog.source.fault with
  | some fault =>
      rw [refresh_of_raises raised] at shown
      contradiction
  | none =>
      rw [refresh_of_works raised] at shown ⊢
      exact ⟨_, rfl, (Except.ok.inj shown).symm⟩

/-! ## Looks -/

variable [Sub τ] [LT τ]

/-- Tables that are kept come from the load that is the latest one. -/
theorem IsSnapshot.exists_of_not_isDue (snapshot : catalog.IsSnapshot lifetime)
    (kept : ¬catalog.source.IsDue lifetime) :
    ∃ load, catalog.source.succeeded.head? = some load ∧
      catalog.cache.tables = .group load.columns := by
  cases latest : catalog.source.succeeded.head? with
  | none => exact absurd (.never (List.head?_eq_none_iff.mp latest)) kept
  | some load =>
      refine ⟨load, rfl, ?_⟩
      rw [snapshot, latest]
      rfl

variable [DecidableLT τ]

theorem IsSnapshot.isStale_iff (snapshot : catalog.IsSnapshot lifetime) :
    catalog.cache.isStale catalog.source.clock = true ↔ catalog.source.IsDue lifetime := by
  rw [snapshot]
  cases latest : catalog.source.succeeded.head? with
  | none => exact iff_of_true rfl (.never (List.head?_eq_none_iff.mp latest))
  | some load =>
      constructor
      · exact fun stale => .expired latest (of_decide_eq_true stale)
      · rintro (none | ⟨again, old⟩)
        · rw [none] at latest
          contradiction
        · obtain rfl := Option.some.inj (latest.symm.trans again)
          exact decide_eq_true old

variable [Add τ]

theorem IsSnapshot.tables_of_isDue (snapshot : catalog.IsSnapshot lifetime)
    (due : catalog.source.IsDue lifetime) : catalog.tables = catalog.refresh :=
  tables_of_isStale (snapshot.isStale_iff.mpr due)

theorem IsSnapshot.tables_of_not_isDue (snapshot : catalog.IsSnapshot lifetime)
    (kept : ¬catalog.source.IsDue lifetime) :
    catalog.tables = (.ok catalog.cache.tables, catalog) :=
  tables_of_not_isStale fun stale => kept (snapshot.isStale_iff.mp stale)

theorem IsSnapshot.tables (snapshot : catalog.IsSnapshot lifetime) :
    catalog.tables.2.IsSnapshot lifetime := by
  by_cases due : catalog.source.IsDue lifetime
  · rw [snapshot.tables_of_isDue due]
    exact snapshot.refresh
  · rw [snapshot.tables_of_not_isDue due]
    exact snapshot

/--
What is asked of a look at a catalog with a source.  Columns that are due are loaded once,
and others are not loaded and leave the catalog as it is.  What the look shows is made from
the columns of the latest load that succeeded, and it fails only if a load that is due does.
-/
structure IsFaithfulLook {α : Type} (lifetime : τ) (view : Tables → α) (catalog : Catalog τ)
    (look : Except Fault α × Catalog τ) : Prop where
  due : catalog.source.IsDue lifetime →
    look.2.source = catalog.source.load.2 ∧ look.2.source.loads = catalog.source.loads + 1
  kept : ¬catalog.source.IsDue lifetime → look.2 = catalog
  shown : ∀ answer, look.1 = .ok answer →
    ∃ load, look.2.source.succeeded.head? = some load ∧ answer = view (.group load.columns)
  fails_iff : (∃ fault, look.1 = .error fault) ↔
    catalog.source.IsDue lifetime ∧ ∃ fault, catalog.source.fault = some fault

/-- Looks at a snapshot are faithful. -/
theorem IsSnapshot.isFaithfulLook {α : Type} (snapshot : catalog.IsSnapshot lifetime)
    (view : Tables → α) : IsFaithfulLook lifetime view catalog (catalog.look view) := by
  rw [look_eq]
  by_cases due : catalog.source.IsDue lifetime
  · rw [snapshot.tables_of_isDue due]
    refine ⟨fun _ => source_refresh catalog, fun kept => absurd due kept, ?_, ?_⟩
    · intro answer shown
      obtain ⟨tables, loaded, rfl⟩ := map_eq_ok_iff.mp shown
      obtain ⟨load, latest, rfl⟩ := exists_of_refresh_eq_ok loaded
      exact ⟨load, latest, rfl⟩
    · cases raised : catalog.source.fault with
      | some fault =>
          rw [refresh_of_raises raised]
          exact iff_of_true ⟨fault, rfl⟩ ⟨due, fault, rfl⟩
      | none =>
          rw [refresh_of_works raised]
          exact iff_of_false nofun nofun
  · rw [snapshot.tables_of_not_isDue due]
    refine ⟨fun contrary => absurd contrary due, fun _ => rfl, ?_, ?_⟩
    · rintro answer ⟨⟩
      obtain ⟨load, latest, held⟩ := snapshot.exists_of_not_isDue due
      exact ⟨load, latest, congrArg view held⟩
    · exact iff_of_false nofun fun failed => due failed.1

end Catalog

end RideQuery.Schema
