import RideQuery.Schema.Catalog

/-!
# Loads and looks

A look at a catalog loads the columns if they are stale, and a load either succeeds, and is
kept, or fails, and then it takes its time and is counted, and that is all.  The count itself
is never looked at, so catalogs that differ in it alone show the same.
-/

namespace RideQuery.Schema.Catalog

variable {τ : Type} [Add τ] {catalog : Catalog τ}

/-! ## Loads -/

/-- A catalog after a load that failed. -/
def afterFailure (catalog : Catalog τ) : Catalog τ :=
  { catalog with
    source.clock := catalog.source.clock + catalog.source.cost
    source.loads := catalog.source.loads + 1 }

/-- A catalog after a load that succeeded. -/
def afterSuccess (catalog : Catalog τ) : Catalog τ :=
  { cache := catalog.cache.store catalog.source.clock catalog.source.columns
    source :=
      { catalog.afterFailure.source with
        succeeded :=
          { began := catalog.source.clock, columns := catalog.source.columns } ::
            catalog.source.succeeded } }

theorem refresh_of_raises {fault : Fault} (raises : catalog.source.fault = some fault) :
    catalog.refresh = (.error fault, catalog.afterFailure) := by
  simp only [refresh, Source.load, raises, afterFailure]

theorem refresh_of_works (works : catalog.source.fault = none) :
    catalog.refresh = (.ok (.group catalog.source.columns), catalog.afterSuccess) := by
  simp only [refresh, Source.load, works, afterSuccess, afterFailure, Cache.store]

/-- A refresh loads the columns once, whether the load succeeds or not. -/
theorem source_refresh (catalog : Catalog τ) :
    catalog.refresh.2.source = catalog.source.load.2 ∧
      catalog.refresh.2.source.loads = catalog.source.loads + 1 := by
  unfold refresh Source.load
  cases catalog.source.fault <;> exact ⟨rfl, rfl⟩

/-! ## Looks -/

section Looks

variable [Sub τ] [LT τ] [DecidableLT τ]

theorem tables_of_isStale (stale : catalog.cache.isStale catalog.source.clock = true) :
    catalog.tables = catalog.refresh :=
  if_pos stale

theorem tables_of_not_isStale (kept : ¬catalog.cache.isStale catalog.source.clock = true) :
    catalog.tables = (.ok catalog.cache.tables, catalog) :=
  if_neg kept

theorem look_eq {α : Type} (view : Tables → α) (catalog : Catalog τ) :
    catalog.look view = (catalog.tables.1.map view, catalog.tables.2) :=
  rfl

/-- While loads fail, a look fails by one load or shows what is kept. -/
theorem look_of_raises {α : Type} (view : Tables → α) {fault : Fault}
    (raises : catalog.source.fault = some fault) :
    catalog.look view = (.error fault, catalog.afterFailure) ∨
      catalog.look view = (.ok (view catalog.cache.tables), catalog) := by
  by_cases stale : catalog.cache.isStale catalog.source.clock = true
  · left
    rw [look_eq, tables_of_isStale stale, refresh_of_raises raises]
    rfl
  · right
    rw [look_eq, tables_of_not_isStale stale]
    rfl

end Looks

/-! ## Counts -/

/-- A catalog with another count of its loads. -/
def recounted (count : Nat) (catalog : Catalog τ) : Catalog τ :=
  { catalog with source.loads := count }

/-- After a failure only time has passed, and one more load is counted. -/
theorem afterFailure_eq (catalog : Catalog τ) :
    catalog.afterFailure =
      recounted (catalog.source.loads + 1)
        { catalog with source.clock := catalog.afterFailure.source.clock } :=
  rfl

theorem refresh_recounted (count : Nat) (catalog : Catalog τ) :
    (catalog.recounted count).refresh =
      (catalog.refresh.1, catalog.refresh.2.recounted (count + 1)) := by
  unfold refresh recounted Source.load
  cases catalog.source.fault <;> rfl

variable [Sub τ] [LT τ] [DecidableLT τ]

theorem exists_tables_recounted (count : Nat) (catalog : Catalog τ) :
    ∃ after, (catalog.recounted count).tables =
      (catalog.tables.1, catalog.tables.2.recounted after) := by
  by_cases stale : catalog.cache.isStale catalog.source.clock = true
  · have other : (catalog.recounted count).tables = (catalog.recounted count).refresh :=
      tables_of_isStale stale
    exact ⟨count + 1, by rw [other, refresh_recounted, tables_of_isStale stale]⟩
  · have other : (catalog.recounted count).tables =
        (.ok catalog.cache.tables, catalog.recounted count) := tables_of_not_isStale stale
    exact ⟨count, by rw [other, tables_of_not_isStale stale]⟩

theorem exists_look_recounted {α : Type} (view : Tables → α) (count : Nat)
    (catalog : Catalog τ) :
    ∃ after, (catalog.recounted count).look view =
      ((catalog.look view).1, (catalog.look view).2.recounted after) := by
  obtain ⟨after, same⟩ := exists_tables_recounted count catalog
  exact ⟨after, by rw [look_eq, same, look_eq]⟩

end RideQuery.Schema.Catalog
