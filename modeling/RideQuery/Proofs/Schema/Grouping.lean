import Mathlib.Data.List.Basic
import RideQuery.Proofs.Dictionary
import RideQuery.Proofs.Schema.Loading

/-!
# Columns grouped by table

Grouping puts every column behind those of its table, so that a table has exactly its own
columns, in the order in which they were given, and the tables come in the order in which
they first appear.  Nothing is lost on the way: written out table by table the columns are
those that were given, in another order only if the columns of a table were not together,
and grouping them once more changes nothing.
-/

namespace RideQuery.Schema

open RideQuery.Value

/-! ## Tables by columns -/

/-- The tables of some columns, in the order in which they first appear. -/
def tablesOf (columns : List Column) : List String :=
  (columns.map Column.table).eraseDups

/-- Columns brought together table by table. -/
def gathered (columns : List Column) : List Column :=
  (tablesOf columns).flatMap fun table => columns.filter (Column.inTable table)

@[simp]
theorem inTable_iff {table : String} {column : Column} :
    column.inTable table = true ↔ column.table = table :=
  beq_iff_eq

theorem mem_tablesOf {columns : List Column} {table : String} :
    table ∈ tablesOf columns ↔ ∃ column ∈ columns, column.table = table := by
  rw [tablesOf, List.mem_eraseDups, List.mem_map]

theorem nodup_tablesOf (columns : List Column) : (tablesOf columns).Nodup :=
  nodup_eraseDups _

/-- A further column adds its table behind the others, unless it is one of them. -/
theorem tablesOf_append_singleton (columns : List Column) (column : Column) :
    tablesOf (columns ++ [column]) =
      tablesOf columns ++ if column.table ∈ tablesOf columns then [] else [column.table] := by
  simp only [tablesOf, List.map_append, List.map_singleton, eraseDups_append_singleton,
    List.mem_eraseDups]

/-- A table that does not appear has no columns. -/
theorem filter_inTable_eq_nil {columns : List Column} {table : String}
    (absent : table ∉ tablesOf columns) : columns.filter (Column.inTable table) = [] := by
  rw [List.filter_eq_nil_iff]
  intro column member own
  exact absent (mem_tablesOf.mpr ⟨column, member, inTable_iff.mp own⟩)

/-! ## Grouping -/

/-- A column is put behind those of its table, or opens a table behind the others. -/
theorem add_map (column : Column) {names : List String} (distinct : names.Nodup)
    (own : String → List Column) :
    Tables.add column (names.map fun table => (table, own table)) =
      (names.map fun table =>
        (table, own table ++ if column.table = table then [column] else [])) ++
        if column.table ∈ names then [] else [(column.table, [column])] := by
  induction names with
  | nil => rfl
  | cons table names inductionHypothesis =>
      obtain ⟨fresh, distinct⟩ := List.nodup_cons.mp distinct
      rw [List.map_cons, Tables.add, List.map_cons]
      by_cases here : column.table = table
      · have others : (names.map fun other =>
            (other, own other ++ if column.table = other then [column] else [])) =
            names.map fun other => (other, own other) := by
          apply List.map_congr_left
          intro other member
          have apart : column.table ≠ other := by
            rintro rfl
            exact fresh (here ▸ member)
          rw [if_neg apart, List.append_nil]
        have member : column.table ∈ table :: names := here ▸ List.mem_cons_self
        rw [beq_iff_eq.mpr here.symm, if_pos rfl, if_pos here, others, if_pos member,
          List.append_nil]
      · have elsewhere : (table == column.table) = false :=
          beq_eq_false_iff_ne.mpr (Ne.symm here)
        rw [elsewhere, if_neg Bool.false_ne_true, inductionHypothesis distinct]
        simp [here]

/-- Grouping gives each table that appears its own columns. -/
theorem group_eq (columns : List Column) :
    Tables.group columns = (tablesOf columns).map fun table =>
      (table, columns.filter (Column.inTable table)) := by
  -- The induction is on the columns put in so far, the last of which comes to the others.
  induction columns using List.reverseRecOn with
  | nil => rfl
  | append_singleton columns column inductionHypothesis =>
      have step : Tables.group (columns ++ [column]) = (Tables.group columns).add column := by
        simp [Tables.group]
      rw [step, inductionHypothesis, add_map column (nodup_tablesOf columns),
        tablesOf_append_singleton, List.map_append]
      congr 1
      · apply List.map_congr_left
        intro table _
        by_cases here : column.table = table <;> simp [here, Column.inTable]
      · by_cases old : column.table ∈ tablesOf columns
        · simp [old]
        · simp [old, filter_inTable_eq_nil old, Column.inTable]

theorem names_group (columns : List Column) :
    (Tables.group columns).names = tablesOf columns := by
  rw [Tables.names, group_eq, List.map_map]
  exact List.map_id _

theorem columnsOf_group (columns : List Column) (table : String) :
    (Tables.group columns).columnsOf table = columns.filter (Column.inTable table) := by
  rw [Tables.columnsOf, group_eq]
  by_cases known : table ∈ tablesOf columns
  · rw [List.lookup_graph _ known]
    rfl
  · have missing : ((tablesOf columns).map fun table =>
        (table, columns.filter (Column.inTable table))).lookup table = none := by
      rw [List.lookup_eq_none_iff]
      simp only [List.mem_map]
      rintro _ ⟨other, member, rfl⟩
      exact bne_iff_ne.mpr fun same => known (same ▸ member)
    rw [missing, filter_inTable_eq_nil known]
    rfl

theorem columns_group (columns : List Column) :
    (Tables.group columns).columns = gathered columns := by
  rw [Tables.columns, group_eq, List.flatMap_map]
  rfl

/-! ## Columns brought together -/

/-- Columns without those of a table. -/
def others (table : String) (columns : List Column) : List Column :=
  columns.filter fun column => !column.inTable table

theorem mem_others {table : String} {columns : List Column} {column : Column} :
    column ∈ others table columns ↔ column ∈ columns ∧ column.table ≠ table := by
  simp [others, Column.inTable]

theorem length_others_lt (column : Column) (columns : List Column) :
    (others column.table (column :: columns)).length < (column :: columns).length := by
  rw [others, List.length_filter_lt_length_iff_exists]
  exact ⟨column, List.mem_cons_self, by simp⟩

theorem others_append (table : String) (columns behind : List Column) :
    others table (columns ++ behind) = others table columns ++ others table behind :=
  List.filter_append ..

theorem others_filter_inTable (table : String) (columns : List Column) :
    others table (columns.filter (Column.inTable table)) = [] := by
  simp [others, List.filter_filter]

theorem others_eq_self {table : String} {columns : List Column}
    (none : columns.filter (Column.inTable table) = []) : others table columns = columns := by
  rw [others, List.filter_eq_self]
  intro column member
  rw [Bool.not_eq_true', ← Bool.not_eq_true]
  exact List.filter_eq_nil_iff.mp none column member

theorem filter_inTable_self (table : String) (columns : List Column) :
    (columns.filter (Column.inTable table)).filter (Column.inTable table) =
      columns.filter (Column.inTable table) := by
  rw [List.filter_filter]
  simp only [Bool.and_self]

theorem filter_inTable_others_self (table : String) (columns : List Column) :
    (others table columns).filter (Column.inTable table) = [] := by
  rw [List.filter_eq_nil_iff]
  intro column member own
  exact (mem_others.mp member).2 (inTable_iff.mp own)

theorem filter_inTable_others {table other : String} (apart : other ≠ table)
    (columns : List Column) :
    (others table columns).filter (Column.inTable other) =
      columns.filter (Column.inTable other) := by
  rw [others, List.filter_filter]
  apply List.filter_congr
  intro column _
  by_cases own : column.table = other <;> simp [Column.inTable, own, apart]

theorem tablesOf_cons (column : Column) (columns : List Column) :
    tablesOf (column :: columns) =
      column.table :: tablesOf (others column.table (column :: columns)) := by
  have first : others column.table (column :: columns) = others column.table columns := by
    simp [others]
  rw [first, tablesOf, List.map_cons, List.eraseDups_cons, List.filter_map]
  rfl

/-- What holds of columns whenever it holds of them without those of the first table. -/
@[elab_as_elim]
theorem tableInduction {motive : List Column → Prop} (nil : motive [])
    (cons : ∀ column columns, motive (others column.table (column :: columns)) →
      motive (column :: columns)) (columns : List Column) : motive columns := by
  induction count : columns.length using Nat.strongRecOn generalizing columns with
  | ind count inductionHypothesis =>
      cases columns with
      | nil => exact nil
      | cons column columns =>
          have fewer := length_others_lt column columns
          exact cons column columns (inductionHypothesis _ (count ▸ fewer) _ rfl)

/-- The columns of the first table come first, and then the others, brought together. -/
theorem gathered_cons (column : Column) (columns : List Column) :
    gathered (column :: columns) =
      (column :: columns).filter (Column.inTable column.table) ++
        gathered (others column.table (column :: columns)) := by
  rw [gathered, tablesOf_cons, List.flatMap_cons, gathered]
  congr 1
  apply List.flatMap_congr
  intro table member
  have apart : table ≠ column.table := by
    rintro rfl
    obtain ⟨other, inside, own⟩ := mem_tablesOf.mp member
    exact (mem_others.mp inside).2 own
  rw [filter_inTable_others apart]

/-- Bringing columns together keeps each of them as often as it is there. -/
theorem gathered_perm (columns : List Column) : (gathered columns).Perm columns := by
  induction columns using tableInduction with
  | nil => exact List.Perm.refl []
  | cons column columns inductionHypothesis =>
      rw [gathered_cons]
      exact (inductionHypothesis.append_left _).trans (List.filter_append_perm _ _)

/-- Bringing columns together keeps those of a table in order. -/
theorem filter_inTable_gathered (columns : List Column) (table : String) :
    (gathered columns).filter (Column.inTable table) =
      columns.filter (Column.inTable table) := by
  induction columns using tableInduction with
  | nil => rfl
  | cons column columns inductionHypothesis =>
      rw [gathered_cons, List.filter_append, inductionHypothesis]
      by_cases first : table = column.table
      · rw [first, filter_inTable_self, filter_inTable_others_self, List.append_nil]
      · have none : ((column :: columns).filter (Column.inTable column.table)).filter
            (Column.inTable table) = [] := by
          rw [List.filter_eq_nil_iff]
          intro other member own
          exact first ((inTable_iff.mp own).symm.trans
            (inTable_iff.mp (List.mem_filter.mp member).2))
        rw [none, List.nil_append, filter_inTable_others first]

/-- Bringing columns together keeps the order in which tables first appear. -/
theorem tablesOf_gathered (columns : List Column) :
    tablesOf (gathered columns) = tablesOf columns := by
  induction columns using tableInduction with
  | nil => rfl
  | cons column columns inductionHypothesis =>
      have rest : others column.table (gathered (others column.table (column :: columns))) =
          gathered (others column.table (column :: columns)) := by
        apply others_eq_self
        rw [filter_inTable_gathered, filter_inTable_others_self]
      have behind : others column.table (gathered (column :: columns)) =
          gathered (others column.table (column :: columns)) := by
        rw [gathered_cons, others_append, others_filter_inTable, rest, List.nil_append]
      have begins : gathered (column :: columns) =
          column :: (columns.filter (Column.inTable column.table) ++
            gathered (others column.table (column :: columns))) := by
        rw [gathered_cons, List.filter_cons_of_pos (inTable_iff.mpr rfl), List.cons_append]
      rw [tablesOf_cons column columns, ← inductionHypothesis, ← behind, begins, ← tablesOf_cons]

/-- Columns that are brought together are grouped as they were before. -/
theorem group_gathered (columns : List Column) :
    Tables.group (gathered columns) = Tables.group columns := by
  simp only [group_eq, tablesOf_gathered, filter_inTable_gathered]

/-! ## Columns that are together -/

/-- Columns of which those of each table stand together. -/
def IsContiguous (columns : List Column) : Prop :=
  ∀ table, columns.filter (Column.inTable table) <:+: columns

/-- A part of a text that shares nothing with its beginning is a part of the rest. -/
theorem isInfix_of_forall_not_mem {α : Type} {part front rest : List α}
    (inside : part <:+: front ++ rest) (apart : ∀ a ∈ part, a ∉ front) : part <:+: rest := by
  obtain ⟨before, behind, same⟩ := inside
  rw [List.append_assoc] at same
  rcases List.append_eq_append_iff.mp same with ⟨between, rfl, left⟩ | ⟨between, rfl, right⟩
  · cases part with
    | nil => exact List.nil_infix
    | cons a part =>
        cases between with
        | nil => exact ⟨[], behind, by simpa using left⟩
        | cons b between =>
            obtain ⟨rfl, _⟩ := List.cons.inj left
            exact absurd (by simp) (apart a List.mem_cons_self)
  · exact ⟨between, behind, by rw [right, List.append_assoc]⟩

/-- Where columns stand together, those of the first table come first. -/
theorem IsContiguous.eq_append {column : Column} {columns : List Column}
    (contiguous : IsContiguous (column :: columns)) :
    column :: columns = (column :: columns).filter (Column.inTable column.table) ++
      others column.table (column :: columns) := by
  obtain ⟨before, behind, same⟩ := contiguous column.table
  have counts := congrArg (fun list => (list.filter (Column.inTable column.table)).length) same
  simp only [List.filter_append, filter_inTable_self, List.length_append] at counts
  have none : before.filter (Column.inTable column.table) = [] :=
    List.eq_nil_of_length_eq_zero (by omega)
  have noneBehind : behind.filter (Column.inTable column.table) = [] :=
    List.eq_nil_of_length_eq_zero (by omega)
  have first : before = [] := by
    cases before with
    | nil => rfl
    | cons other before =>
        obtain ⟨rfl, _⟩ := List.cons.inj same
        exact absurd (inTable_iff.mpr rfl) (List.filter_eq_nil_iff.mp none other List.mem_cons_self)
  subst first
  have rest : others column.table (column :: columns) = behind := by
    have parts := congrArg (others column.table) same
    rw [List.nil_append, others_append, others_filter_inTable, others_eq_self noneBehind] at parts
    exact parts.symm
  rw [rest]
  exact same.symm

theorem IsContiguous.others {column : Column} {columns : List Column}
    (contiguous : IsContiguous (column :: columns)) :
    IsContiguous (others column.table (column :: columns)) := by
  intro table
  by_cases own : table = column.table
  · rw [own, filter_inTable_others_self]
    exact List.nil_infix
  · rw [filter_inTable_others own]
    have inside : (column :: columns).filter (Column.inTable table) <:+:
        (column :: columns).filter (Column.inTable column.table) ++
          Schema.others column.table (column :: columns) := by
      rw [← contiguous.eq_append]
      exact contiguous table
    apply isInfix_of_forall_not_mem inside
    intro other member first
    exact own ((inTable_iff.mp (List.mem_filter.mp member).2).symm.trans
      (inTable_iff.mp (List.mem_filter.mp first).2))

/-- Columns that stand together are left where they are. -/
theorem IsContiguous.gathered_eq {columns : List Column} (contiguous : IsContiguous columns) :
    gathered columns = columns := by
  induction columns using tableInduction with
  | nil => rfl
  | cons column columns inductionHypothesis =>
      rw [gathered_cons, inductionHypothesis contiguous.others, ← contiguous.eq_append]

/-! ## Catalogs -/

namespace Catalog

variable {τ : Type} [Add τ]

/-- Loads that give columns do not fail, and give those of the source. -/
theorem eq_columns_of_load {source : Source τ} {columns : List Column}
    (given : source.load.1 = .ok columns) : source.fault = none ∧ columns = source.columns := by
  rw [Source.load] at given
  cases raised : source.fault with
  | some fault =>
      rw [raised] at given
      contradiction
  | none =>
      rw [raised] at given
      exact ⟨rfl, (Except.ok.inj given).symm⟩

theorem refresh_of_load {catalog : Catalog τ} {columns : List Column}
    (given : catalog.source.load.1 = .ok columns) :
    catalog.refresh = (.ok (.group columns), catalog.afterSuccess) := by
  obtain ⟨works, rfl⟩ := eq_columns_of_load given
  exact refresh_of_works works

variable [Sub τ] [LT τ] [DecidableLT τ]

/-- A catalog whose columns were loaded not too long ago shows them and stays as it is. -/
theorem look_of_young {α : Type} (view : Tables → α) {catalog : Catalog τ} {began : τ}
    (loaded : catalog.cache.loadedAt = some began)
    (young : ¬catalog.cache.lifetime < catalog.source.clock - began) :
    catalog.look view = (.ok (view catalog.cache.tables), catalog) := by
  have kept : ¬catalog.cache.isStale catalog.source.clock = true := by
    rw [Cache.isStale, loaded]
    exact fun stale => young (of_decide_eq_true stale)
  rw [look_eq, tables_of_not_isStale kept]
  rfl

/--
As long as columns are kept that a load gave, the tables are those in which the columns are,
in the order in which they first appear, each with exactly its own columns in the given order,
and all columns are those of the tables one after the other.  So these are the columns that were
given, in the given order if those of each table stood together there; and loading them instead
gives the same schema again.
-/
theorem looks_of_refresh {catalog : Catalog τ} {columns : List Column} {now : τ}
    (given : catalog.source.load.1 = .ok columns)
    (young : ¬catalog.cache.lifetime < now - catalog.source.clock) :
    let kept := { catalog.refresh.2 with source.clock := now }
    let names := (columns.map Column.table).eraseDups
    kept.tableNames = (.ok names, kept) ∧
      (∀ table, kept.columnsOf table = (.ok (columns.filter (Column.inTable table)), kept)) ∧
      ∃ all, kept.allColumns = (.ok all, kept) ∧
        all = names.flatMap (fun table => columns.filter (Column.inTable table)) ∧
        all.Perm columns ∧
        (IsContiguous columns → all = columns) ∧
        ∀ again : Catalog τ, again.source.load.1 = .ok all →
          again.refresh.1 = catalog.refresh.1 := by
  intro kept names
  obtain ⟨works, rfl⟩ := eq_columns_of_load given
  have tables : kept.cache.tables = .group catalog.source.columns := by
    simp only [kept, refresh_of_works works, afterSuccess, Cache.store]
  have loaded : kept.cache.loadedAt = some catalog.source.clock := by
    simp only [kept, refresh_of_works works, afterSuccess, Cache.store]
  have lifetime : kept.cache.lifetime = catalog.cache.lifetime := by
    simp only [kept, refresh_of_works works, afterSuccess, Cache.store]
  have shows : ∀ {α : Type} (view : Tables → α),
      kept.look view = (.ok (view (.group catalog.source.columns)), kept) := by
    intro α view
    rw [← tables]
    exact look_of_young view loaded (lifetime ▸ young)
  refine ⟨?_, ?_, gathered catalog.source.columns, ?_, rfl, gathered_perm _,
    IsContiguous.gathered_eq, ?_⟩
  · rw [tableNames, shows, names_group]
    rfl
  · intro table
    rw [columnsOf, shows, columnsOf_group]
  · rw [allColumns, shows, columns_group]
  · intro again regiven
    rw [refresh_of_load regiven, refresh_of_load given, group_gathered]

/-- The trips stand on both sides of the stations, and one of their columns is repeated. -/
theorem looks_of_refresh_interleaved :
    let trip : Column := { table := "trips", name := "id", dataType := "integer", nullable := false }
    let name : Column := { table := "stations", name := "name", dataType := "text", nullable := true }
    let start : Column := { table := "trips", name := "start", dataType := none, nullable := true }
    let columns := [trip, name, start, trip]
    let source : Source Int := { clock := 7, columns, fault := none, cost := 3, loads := 0 }
    let catalog : Catalog Int := { cache := .new 300, source }
    let kept := { catalog.refresh.2 with source.clock := 307 }
    catalog.source.load.1 = .ok columns ∧
      ¬catalog.cache.lifetime < 307 - catalog.source.clock ∧
      kept.tableNames = (.ok ["trips", "stations"], kept) ∧
      kept.columnsOf "trips" = (.ok [trip, start, trip], kept) ∧
      kept.columnsOf "users" = (.ok [], kept) ∧
      kept.allColumns = (.ok [trip, start, trip, name], kept) := by
  intro trip name start columns source catalog kept
  have given : catalog.source.load.1 = .ok columns := rfl
  have young : ¬catalog.cache.lifetime < 307 - catalog.source.clock := by decide
  obtain ⟨names, own, all, shown, same, _⟩ := looks_of_refresh given young
  have together : all = [trip, start, trip, name] := by
    rw [same]
    decide +kernel
  exact ⟨given, young, names, own "trips", own "users", together ▸ shown⟩

end Catalog

end RideQuery.Schema
