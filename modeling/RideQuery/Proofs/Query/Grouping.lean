import RideQuery.Proofs.Query.Names

/-!
# Names to group by

A statement selects and compares columns under the short names of their tables, but it groups
by bare names.  Such a name is clear if exactly one of the tables that the statement brings in
has a column of that name.  The table of a group is brought in if it is known, so that the
name of the group is clear unless another table that the query is on has it, too.
-/

namespace RideQuery.Query

open RideQuery.Schema

variable {columns : List Column} {intent : Intent}

/-! ## Tables of a statement -/

namespace Statement

variable {statement : Statement}

/-- The tables that a statement brings in. -/
def tables (statement : Statement) : List String :=
  statement.bindings.map Binding.table

/-- Tables that a statement brings in and that have, by the catalog, a column of some name. -/
def Offers (statement : Statement) (columns : List Column) (name table : String) : Prop :=
  table ∈ statement.tables ∧ ∃ column ∈ columns, column.table = table ∧ column.name = name

/-- Names that exactly one of the tables of a statement has. -/
def IsClear (statement : Statement) (columns : List Column) (name : String) : Prop :=
  ∃! table, statement.Offers columns name table

/-- The name of a column is clear if no other table of the statement has a column of it. -/
theorem isClear_iff {column : Column} (offers : statement.Offers columns column.name column.table) :
    statement.IsClear columns column.name ↔
      ∀ other ∈ columns, other.name = column.name → other.table ∈ statement.tables →
        other.table = column.table := by
  constructor
  · rintro ⟨table, _, only⟩ other member name inside
    have own : column.table = table := only _ offers
    have same : other.table = table := only _ ⟨inside, other, member, rfl, name⟩
    exact same.trans own.symm
  · intro only
    refine ⟨column.table, offers, ?_⟩
    rintro table ⟨inside, other, member, rfl, name⟩
    exact only other member name inside

end Statement

/-! ## Tables that a query is on -/

/--
The columns of filters and groups: those that an intent names, and the one that a ranking
without groups goes by.
-/
inductive IsUsed (columns : List Column) (intent : Intent) (column : Column) : Prop
  | named (named : IsNamed columns intent column)
  | station (ungrouped : intent.groupBy = []) (ranked : intent.aggregation = .max)
      (found : stationNameColumn columns = some column)

/-- The tables that a query is on: the trips, and the dimensions of its filters and groups. -/
inductive IsNeeded (columns : List Column) (intent : Intent) : String → Prop
  | facts : IsNeeded columns intent factTable
  | dimension (dimension : Dimension) {column : Column} (used : IsUsed columns intent column)
      (table : column.table = dimension.table) : IsNeeded columns intent dimension.table

/-- Columns whose name another table that the query is on has, too. -/
def IsContested (columns : List Column) (intent : Intent) (column : Column) : Prop :=
  ∃ other ∈ columns, other.name = column.name ∧ other.table ≠ column.table ∧
    IsNeeded columns intent other.table

theorem IsNeeded.isKnown {table : String} (needed : IsNeeded columns intent table) :
    IsKnown table := by
  cases needed with
  | facts => exact .inl rfl
  | dimension dimension => exact .inr ⟨dimension, rfl⟩

namespace Layout.Of

variable {layout : Layout}

theorem mem_used_iff_isUsed (isOf : layout.Of columns intent) {column : Column} :
    column ∈ layout.used ↔ IsUsed columns intent column := by
  rw [isOf.mem_used_iff, mem_groups_iff isOf.groups]
  constructor
  · rintro (⟨filter, member, found⟩ | ⟨name, member, found⟩ | ⟨⟨ungrouped, ranked⟩, found⟩)
    · exact .named (.filter member found)
    · exact .named (.group member found)
    · exact .station ungrouped ranked found
  · rintro ((⟨member, found⟩ | ⟨member, found⟩) | ⟨ungrouped, ranked, found⟩)
    · exact .inl ⟨_, member, found⟩
    · exact .inr (.inl ⟨_, member, found⟩)
    · exact .inr (.inr ⟨⟨ungrouped, ranked⟩, found⟩)

/-- A statement brings in exactly the tables that its query is on. -/
theorem mem_tables_iff (isOf : layout.Of columns intent) (conditions : List Condition)
    {table : String} :
    table ∈ (layout.statement intent.aggregation conditions).tables ↔
      IsNeeded columns intent table := by
  have tables : (layout.statement intent.aggregation conditions).tables =
      factTable :: (dimensionsOf layout.used).map Dimension.table := by
    rw [← isOf.dimensions, Statement.tables, Statement.bindings, List.map_cons, List.map_map,
      List.map_map]
    rfl
  rw [tables, List.mem_cons, List.mem_map]
  constructor
  · rintro (rfl | ⟨dimension, joined, rfl⟩)
    · exact .facts
    · obtain ⟨column, used, own⟩ := mem_dimensionsOf_iff.mp joined
      exact .dimension dimension (isOf.mem_used_iff_isUsed.mp used) own
  · rintro (_ | ⟨dimension, used, own⟩)
    · exact .inl rfl
    · exact .inr ⟨dimension,
        mem_dimensionsOf_iff.mpr ⟨_, isOf.mem_used_iff_isUsed.mpr used, own⟩, rfl⟩

/-- A statement brings in the table of a column that it uses, if that table is known. -/
theorem isNeeded_of_used (isOf : layout.Of columns intent) {column : Column}
    (used : column ∈ layout.used) (known : IsKnown column.table) :
    IsNeeded columns intent column.table := by
  rcases known with facts | ⟨dimension, own⟩
  · rw [facts]
    exact .facts
  · rw [← own]
    exact .dimension dimension (isOf.mem_used_iff_isUsed.mp used) own.symm

end Layout.Of

/-! ## Clear names -/

/--
A statement groups by the bare names of its groups.  It brings in the trips and the dimensions
that a filter or a group is on, and no other tables.  If the table of a group is known, then
it is one of these, and the name of the group is a column of exactly one of them unless
another of them has a column of that name.  If the table is not known, it is none of them.
-/
theorem isClear_iff_of_buildWith {wellFormed : List Char → Bool} {generated : Generated}
    (built : buildWith wellFormed intent.toDraft columns = .ok generated) :
    ∃ groups, groupColumns columns intent.aggregation intent.groupBy = .ok groups ∧
      generated.statement.groupBy = groups.map Column.name ∧
      (∀ table, table ∈ generated.statement.tables ↔ IsNeeded columns intent table) ∧
      ∀ column ∈ groups,
        (IsKnown column.table →
          generated.statement.Offers columns column.name column.table ∧
            (generated.statement.IsClear columns column.name ↔
              ¬IsContested columns intent column)) ∧
          (¬IsKnown column.table → column.table ∉ generated.statement.tables) := by
  obtain ⟨bound, bindStep, _, statement_eq, _⟩ := exists_bound_of_buildWith built
  obtain ⟨layout, conditions, dates, isOf, _, _, own⟩ :=
    Layout.exists_of_bind bindStep
  have tables : ∀ table, table ∈ generated.statement.tables ↔ IsNeeded columns intent table := by
    intro table
    rw [statement_eq, own]
    exact isOf.mem_tables_iff _
  refine ⟨layout.groups, isOf.groups, by rw [statement_eq, own]; rfl, tables, ?_⟩
  intro column grouped
  constructor
  · intro known
    have needed := isOf.isNeeded_of_used (List.mem_append_right _ grouped) known
    have offers : generated.statement.Offers columns column.name column.table :=
      ⟨(tables _).mpr needed, column, mem_of_groupColumns isOf.groups column grouped, rfl, rfl⟩
    refine ⟨offers, ?_⟩
    rw [Statement.isClear_iff offers, IsContested]
    simp only [tables]
    push Not
    exact forall_congr' fun other => imp_congr_right fun _ => imp_congr_right fun _ =>
      not_imp_not.symm
  · intro unknown inside
    exact unknown ((tables _).mp inside).isKnown

/-- The trips by rider, of the riders of one gender. -/
def riderIntent : Intent :=
  { filters := [{ column := "gender", operator := .equal, value := .text "female" }]
    groupBy := ["user_id"] }

/-- Trips and riders, who are told by one name in both tables. -/
def riderColumns : List Column :=
  [{ table := "trips", name := "user_id", dataType := some "integer", nullable := false },
    { table := "users", name := "user_id", dataType := some "integer", nullable := false },
    { table := "users", name := "gender", dataType := some "varchar", nullable := true }]

/-- The statement that counts the trips of each rider of one gender. -/
def riderStatement : Statement :=
  { outputs :=
      [{ expression := .column (.fact "user_id"), label := none },
        { expression := .countAll, label := some countLabel }]
    joins := [.users]
    conditions := [.compare { qualifier := "u", name := "gender" } .equal (.placeholder 1)]
    groupBy := ["user_id"]
    topOnly := false }

theorem isClear_iff_of_buildWith_stations :
    ∃ generated, buildWith (fun _ => true) (rankingIntent []).toDraft sampleColumns =
        .ok generated ∧
      generated.statement.groupBy = ["station_name"] ∧
      generated.statement.IsClear sampleColumns "station_name" := by
  have computed : (buildWith (fun _ => true) (rankingIntent []).toDraft sampleColumns).map
      (fun generated => generated.statement.groupBy) = .ok ["station_name"] := by decide +kernel
  obtain ⟨generated, built, groupBy⟩ := map_eq_ok_iff.mp computed
  obtain ⟨groups, grouped, names, _, clear⟩ := isClear_iff_of_buildWith built
  have own : groups = [sampleColumns[3]] := by
    have found : groupColumns sampleColumns .max [] = .ok [sampleColumns[3]] := by rfl
    exact Except.ok.inj (grouped.symm.trans found)
  have free : ¬IsContested sampleColumns (rankingIntent []) sampleColumns[3] := by
    have only : ∀ other ∈ sampleColumns, other.name = sampleColumns[3].name →
        other.table = sampleColumns[3].table := by decide
    rintro ⟨other, member, name, apart, _⟩
    exact apart (only other member name)
  have known : IsKnown sampleColumns[3].table := .inr ⟨.stations, rfl⟩
  exact ⟨generated, built, groupBy,
    ((clear _ (own ▸ List.mem_singleton_self _)).1 known).2.mpr free⟩

/-- Two tables of a statement have a column of the name that it groups by. -/
theorem not_isClear_riders :
    ∃ generated, buildWith Sql.Grammar.accepts riderIntent.toDraft riderColumns =
        .ok generated ∧
      generated.sql = "SELECT t.user_id, COUNT(*) AS total_count FROM trips t " ++
        "JOIN users u ON t.user_id = u.user_id WHERE u.gender = $1 GROUP BY user_id" ∧
      "user_id" ∈ generated.statement.groupBy ∧
      generated.statement.Offers riderColumns "user_id" "trips" ∧
      generated.statement.Offers riderColumns "user_id" "users" ∧
      ¬generated.statement.IsClear riderColumns "user_id" := by
  have computed : (buildWith Sql.Grammar.accepts riderIntent.toDraft riderColumns).map
      Generated.statement = .ok riderStatement := by decide +kernel
  obtain ⟨generated, built, own⟩ := map_eq_ok_iff.mp computed
  have trips : riderStatement.Offers riderColumns "user_id" "trips" :=
    ⟨by decide, riderColumns[0], by decide, rfl, rfl⟩
  have users : riderStatement.Offers riderColumns "user_id" "users" :=
    ⟨by decide, riderColumns[1], by decide, rfl, rfl⟩
  have contested : ¬riderStatement.IsClear riderColumns "user_id" :=
    fun clear => absurd (clear.unique trips users) (by decide)
  refine ⟨generated, built, ?_, ?_, own ▸ trips, own ▸ users, own ▸ contested⟩
  · rw [Generated.sql, own]
    decide +kernel
  · rw [own]
    decide

end RideQuery.Query
