import Mathlib.Data.List.Nodup
import RideQuery.Proofs.Dictionary
import RideQuery.Proofs.Query.Outputs

/-!
# Collisions of names

A record holds one value under each name, so a row loses values exactly if members of the
SELECT list share a name.  The columns that an intent groups by have names of their own, but
two of them share one if both go by the station of a ranking, and one of them shares its name
with the aggregate if it is called like that.  Nothing else collides.
-/

namespace RideQuery

/-! ## Records -/

namespace Database

variable {names : List String} {row : List Value}

/-- A record has each name once. -/
theorem keys_record (length : row.length = names.length) :
    (record names row).map Prod.fst = names.eraseDups.map .text := by
  have entries : (names.map Value.text).zip row =
      (names.zip row).map fun entry => (.text entry.1, entry.2) := List.zip_map_left ..
  rw [record, entries, Value.keys_ofEntries, List.map_fst_zip (Nat.le_of_eq length.symm)]

/-- A record keeps all of a row exactly if no two of the names are the same. -/
theorem record_eq_zip_iff (length : row.length = names.length) :
    record names row = (names.map .text).zip row ↔ names.Nodup := by
  have within := Nat.le_of_eq length.symm
  constructor
  · intro kept
    have keys := congrArg (List.map Prod.fst) kept
    rw [keys_record length, List.map_fst_zip (by simpa using within)] at keys
    have own : names.eraseDups = names :=
      List.map_injective_iff.mpr (fun _ _ => Value.text.inj) keys
    rw [← own]
    exact Value.nodup_eraseDups names
  · intro distinct
    apply Value.ofEntries_of_pairwise
    have pairs : ((names.zip row).map Prod.fst).Nodup := by
      rwa [List.map_fst_zip within]
    rw [List.zip_map_left, List.pairwise_map]
    apply (List.pairwise_map.mp pairs).imp
    intro entry next apart
    rw [Prod.map_fst, Prod.map_fst, Value.sameKey_text]
    exact beq_eq_false_iff_ne.mpr apart

end Database

namespace Query

open RideQuery.Text RideQuery.Schema RideQuery.Sql RideQuery.Database

variable {columns : List Column} {intent : Intent}

/-! ## Names of groups -/

/-- The name of a group in a row: a station of a ranking goes by the name of all of them. -/
def groupName (aggregation : Aggregation) (column : Column) : String :=
  if aggregation = .max ∧ ofStations column = true then stationLabel else column.name

theorem name?_groupOutput_eq (aggregation : Aggregation) (column : Column) :
    (groupOutput aggregation column).name? = some (groupName aggregation column) := by
  rw [groupOutput, groupName]
  by_cases station : aggregation = .max ∧ ofStations column = true
  · by_cases named : column.name = stationLabel
    · simp [Output.name?, Reference.ofColumn, station, named]
    · simp [Output.name?, station, named]
  · have other : ¬(aggregation = .max ∧ ofStations column = true ∧
        column.name ≠ stationLabel) := fun labelled => station ⟨labelled.1, labelled.2.1⟩
    simp [Output.name?, Reference.ofColumn, station, other]

/-- The columns that go by the name of a station in a ranking. -/
def IsStation (column : Column) : Prop :=
  ofStations column = true ∨ column.name = stationLabel

/-- Groups with different names share one exactly if both are stations of a ranking. -/
theorem groupName_eq_iff {aggregation : Aggregation} {column other : Column}
    (apart : column.name ≠ other.name) :
    groupName aggregation column = groupName aggregation other ↔
      aggregation = .max ∧ IsStation column ∧ IsStation other := by
  by_cases ranked : aggregation = .max
  · by_cases first : ofStations column = true
    · by_cases second : ofStations other = true
      · simp [groupName, IsStation, ranked, first, second]
      · simp [groupName, IsStation, ranked, first, second, eq_comm]
    · by_cases second : ofStations other = true
      · simp [groupName, IsStation, ranked, first, second]
      · have notBoth : ¬(column.name = stationLabel ∧ other.name = stationLabel) :=
          fun both => apart (both.1.trans both.2.symm)
        simp [groupName, IsStation, ranked, first, second, apart, notBoth]
  · simp [groupName, ranked, apart]

/-- A group goes by the name of the aggregate if that is its own and it keeps it. -/
theorem groupName_eq_aggregateName_iff {aggregation : Aggregation} {column : Column} :
    groupName aggregation column = aggregateName aggregation ↔
      column.name = aggregateName aggregation ∧
        ¬(aggregation = .max ∧ ofStations column = true) := by
  by_cases station : aggregation = .max ∧ ofStations column = true
  · obtain ⟨rfl, own⟩ := station
    have apart : stationLabel ≠ departuresLabel := by decide
    simp [groupName, own, aggregateName, apart]
  · simp [groupName, station]

/-! ## Collisions -/

/-- Ways for two members of the SELECT list to share a name. -/
inductive Collides (columns : List Column) (intent : Intent) : Prop
  /-- A group is called like the aggregate. -/
  | aggregate {column : Column} (grouped : column.name ∈ intent.groupBy)
      (found : findColumn columns column.name = some column)
      (named : column.name = aggregateName intent.aggregation)
      (kept : ¬(intent.aggregation = .max ∧ ofStations column = true))
  /-- Two groups of a ranking go by the name of a station. -/
  | stations {column other : Column} (ranked : intent.aggregation = .max)
      (apart : column.name ≠ other.name)
      (grouped : column.name ∈ intent.groupBy)
      (found : findColumn columns column.name = some column) (station : IsStation column)
      (otherGrouped : other.name ∈ intent.groupBy)
      (otherFound : findColumn columns other.name = some other) (otherStation : IsStation other)

/-- Groups are called as an intent calls them, or there is only the default one. -/
theorem names_of_groupColumns {groups : List Column}
    (grouped : groupColumns columns intent.aggregation intent.groupBy = .ok groups) :
    groups.map Column.name = intent.groupBy ∨
      (intent.groupBy = [] ∧ intent.aggregation = .max) ∧
        ∃ station, ofStations station = true ∧ groups = [station] := by
  rcases groupColumns_cases grouped with ⟨named, _⟩ | ⟨default, station, found, rfl⟩
  · left
    rw [← List.forall₂_eq_eq_eq, List.forall₂_map_left_iff]
    exact named.flip.imp fun column name known => findColumn_name known.1
  · have table := table_of_stationNameColumn found
    exact .inr ⟨default, station, beq_iff_eq.mpr table, rfl⟩

/-- The groups are the columns that the names of an intent stand for. -/
theorem mem_groups_of_names_iff {groups : List Column}
    (grouped : groupColumns columns intent.aggregation intent.groupBy = .ok groups)
    (named : groups.map Column.name = intent.groupBy) {column : Column} :
    column ∈ groups ↔
      column.name ∈ intent.groupBy ∧ findColumn columns column.name = some column := by
  constructor
  · intro member
    have inside : column.name ∈ intent.groupBy := named ▸ List.mem_map_of_mem member
    rcases (mem_groups_iff grouped).mp member with ⟨name, _, found⟩ | ⟨⟨none, _⟩, _⟩
    · obtain rfl := findColumn_name found
      exact ⟨inside, found⟩
    · rw [none] at inside
      contradiction
  · rintro ⟨inside, found⟩
    exact (mem_groups_iff grouped).mpr (.inl ⟨_, inside, found⟩)

/-- Names collide if one of the groups goes by the name of the aggregate or of another. -/
theorem collides_iff {groups : List Column}
    (grouped : groupColumns columns intent.aggregation intent.groupBy = .ok groups)
    (named : groups.map Column.name = intent.groupBy) :
    Collides columns intent ↔
      (∃ column ∈ groups,
          groupName intent.aggregation column = aggregateName intent.aggregation) ∨
        ∃ column ∈ groups, ∃ other ∈ groups, column.name ≠ other.name ∧
          groupName intent.aggregation column = groupName intent.aggregation other := by
  have isGroup := @mem_groups_of_names_iff _ _ _ grouped named
  constructor
  · intro collides
    cases collides with
    | aggregate grouped found called kept =>
        left
        exact ⟨_, isGroup.mpr ⟨grouped, found⟩, groupName_eq_aggregateName_iff.mpr ⟨called, kept⟩⟩
    | stations ranked apart grouped found station otherGrouped otherFound otherStation =>
        right
        exact ⟨_, isGroup.mpr ⟨grouped, found⟩, _, isGroup.mpr ⟨otherGrouped, otherFound⟩, apart,
          (groupName_eq_iff apart).mpr ⟨ranked, station, otherStation⟩⟩
  · rintro (⟨column, member, same⟩ | ⟨column, member, other, otherMember, apart, same⟩)
    · obtain ⟨inside, found⟩ := isGroup.mp member
      obtain ⟨called, kept⟩ := groupName_eq_aggregateName_iff.mp same
      exact .aggregate inside found called kept
    · obtain ⟨inside, found⟩ := isGroup.mp member
      obtain ⟨otherInside, otherFound⟩ := isGroup.mp otherMember
      obtain ⟨ranked, station, otherStation⟩ := (groupName_eq_iff apart).mp same
      exact .stations ranked apart inside found station otherInside otherFound otherStation

/-- Groups with names of their own are called differently unless two different ones are
called the same. -/
theorem nodup_groupNames_iff {aggregation : Aggregation} {groups : List Column}
    (distinct : (groups.map Column.name).Nodup) :
    (groups.map (groupName aggregation)).Nodup ↔
      ∀ column ∈ groups, ∀ other ∈ groups, column.name ≠ other.name →
        groupName aggregation column ≠ groupName aggregation other := by
  constructor
  · intro apart column member other otherMember different same
    have equal := List.inj_on_of_nodup_map apart member otherMember same
    exact different (congrArg Column.name equal)
  · intro apart
    refine List.Nodup.map_on ?_ (List.Nodup.of_map _ distinct)
    intro column member other otherMember same
    by_cases different : column.name = other.name
    · exact List.inj_on_of_nodup_map distinct member otherMember different
    · exact absurd same (apart column member other otherMember different)

/-- The names of the SELECT list are all different unless they collide. -/
theorem nodup_names_iff {groups : List Column}
    (grouped : groupColumns columns intent.aggregation intent.groupBy = .ok groups)
    (distinct : intent.groupBy.Nodup) :
    (groups.map (groupName intent.aggregation) ++ [aggregateName intent.aggregation]).Nodup ↔
      ¬Collides columns intent := by
  rcases names_of_groupColumns grouped with named | ⟨⟨none, ranked⟩, station, own, rfl⟩
  · rw [← List.concat_eq_append, List.nodup_concat, List.mem_map, collides_iff grouped named,
      nodup_groupNames_iff (named ▸ distinct), not_or]
    simp
  · have names : [station].map (groupName intent.aggregation) ++
        [aggregateName intent.aggregation] = [stationLabel, departuresLabel] := by
      simp [groupName, aggregateName, ranked, own]
    have apart : [stationLabel, departuresLabel].Nodup := by decide
    rw [names]
    apply iff_of_true apart
    intro collides
    cases collides with
    | aggregate grouped => simp [none] at grouped
    | stations _ _ grouped => simp [none] at grouped

/--
If an intent groups by different columns, the names of the SELECT list of its query are all
different unless a group is called like the aggregate, or two groups of a ranking both go by
the name of a station.  Then, and only then, the record of a row holds less than the row.
-/
theorem nodup_names_iff_of_buildWith {wellFormed : List Char → Bool} {generated : Generated}
    (distinct : intent.groupBy.Nodup)
    (built : buildWith wellFormed intent.toDraft columns = .ok generated) :
    ∃ names : List String,
      generated.statement.outputs.map Output.name? = names.map some ∧
      (names.Nodup ↔ ¬Collides columns intent) ∧
      ∀ row : List Value, row.length = names.length →
        (record names row = (names.map .text).zip row ↔ ¬Collides columns intent) := by
  obtain ⟨groups, aggregate, grouped, isAggregate, outputs⟩ := exists_outputs_of_buildWith built
  have free := nodup_names_iff grouped distinct
  refine ⟨_, ?_, free, fun row length => (record_eq_zip_iff length).trans free⟩
  have called : Output.name? ∘ groupOutput intent.aggregation =
      some ∘ groupName intent.aggregation := funext (name?_groupOutput_eq intent.aggregation)
  rw [outputs, List.map_append, List.map_append, List.map_map, List.map_map, called,
    List.map_singleton, isAggregate.name?_eq, List.map_singleton]

/-- A count of the trips for each value of a column that is called like the count. -/
def countIntent : Intent :=
  { groupBy := [countLabel] }

/-- A column of the trips that is called like their count. -/
def countColumn : Column :=
  { table := factTable, name := countLabel, dataType := some "integer", nullable := true }

theorem nodup_names_iff_of_buildWith_count :
    countIntent.groupBy.Nodup ∧
      ∃ generated, buildWith (fun _ => true) countIntent.toDraft [countColumn] = .ok generated ∧
        ∃ names : List String,
          generated.statement.outputs.map Output.name? = names.map some ∧ ¬names.Nodup := by
  have distinct : countIntent.groupBy.Nodup := by decide
  obtain ⟨generated, built⟩ : ∃ generated,
      buildWith (fun _ => true) countIntent.toDraft [countColumn] = .ok generated :=
    exists_eq_ok_of_isOk (by decide +kernel)
  obtain ⟨names, outputs, free, _⟩ := nodup_names_iff_of_buildWith distinct built
  have collides : Collides [countColumn] countIntent :=
    .aggregate (by decide) (by decide : findColumn _ _ = some countColumn) rfl (by decide)
  exact ⟨distinct, generated, built, names, outputs, fun apart => free.mp apart collides⟩

/-- The names and the numbers of the stations. -/
def stationColumns : List Column :=
  [{ table := "stations", name := "station_name", dataType := some "varchar", nullable := false },
    { table := "stations", name := "station_id", dataType := some "integer", nullable := false }]

/-- The stations by departures, as an intent groups by their names and their numbers. -/
def stationRanking : Intent :=
  rankingIntent ["station_name", "station_id"]

/-- The statement that ranks the stations by their names and their numbers. -/
def stationStatement : Statement :=
  { outputs :=
      [{ expression := .column { qualifier := "s", name := "station_name" }, label := none },
        { expression := .column { qualifier := "s", name := "station_id" },
          label := some stationLabel },
        { expression := .countAll, label := some departuresLabel }]
    joins := [.stations]
    conditions := []
    groupBy := ["station_name", "station_id"]
    topOnly := true }

/-- A ranking in which the number of a station takes the place of its name. -/
theorem collides_stationRanking :
    stationRanking.groupBy.Nodup ∧
      ∃ generated, buildWith Grammar.accepts stationRanking.toDraft stationColumns =
          .ok generated ∧
        generated.sql = "SELECT s.station_name, s.station_id AS station_name, " ++
          "COUNT(*) AS departure_count FROM trips t " ++
          "JOIN stations s ON t.start_station_id = s.station_id " ++
          "GROUP BY station_name, station_id ORDER BY departure_count DESC LIMIT 1" ∧
        generated.statement.outputs.map Output.name? =
          ["station_name", "station_name", "departure_count"].map some ∧
        ¬["station_name", "station_name", "departure_count"].Nodup ∧
        record ["station_name", "station_name", "departure_count"]
            [.text "Pier 1", .int 7, .int 3] =
          [(.text "station_name", .int 7), (.text "departure_count", .int 3)] := by
  have computed : (buildWith Grammar.accepts stationRanking.toDraft stationColumns).map
      Generated.statement = .ok stationStatement := by decide +kernel
  obtain ⟨generated, built, own⟩ := map_eq_ok_iff.mp computed
  refine ⟨by decide, generated, built, ?_, ?_, by decide, by rfl⟩
  · rw [Generated.sql, own]
    decide +kernel
  · rw [own]
    decide

end Query

end RideQuery
