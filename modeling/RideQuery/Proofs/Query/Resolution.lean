import RideQuery.Proofs.Query.Scope
import RideQuery.Proofs.Question.Detection

/-!
# Names of chosen columns

A question chooses columns among those of all tables, and its intent hands them over by
their names alone.  Building takes each name for the first column that has it, whatever its
table.  That is the chosen column exactly if no other table has a column of the name
further up in the catalog.
-/

namespace RideQuery.Query

open RideQuery.Schema RideQuery.Question

variable {columns : List Column}

/-! ## Columns under their names -/

/-- Columns with the same table and the same name. -/
def SameColumn (column other : Column) : Prop :=
  column.table = other.table ∧ column.name = other.name

/-- Columns that come before every column of the same name in another table. -/
def HoldsItsName (columns : List Column) (chosen : Column) : Prop :=
  ∀ before other after, columns = before ++ other :: after →
    other.name = chosen.name → other.table ≠ chosen.table →
      ∃ own ∈ before, SameColumn own chosen

/-- A chosen column is found again under its name exactly if it holds its name. -/
theorem sameColumn_iff_holdsItsName {chosen found : Column}
    (resolved : findColumn columns chosen.name = some found) :
    SameColumn found chosen ↔ HoldsItsName columns chosen := by
  obtain ⟨named, front, back, catalog, others⟩ := List.find?_eq_some_iff_append.mp resolved
  have nameless : ∀ column ∈ front, column.name ≠ chosen.name := by
    intro column inside
    simpa using others column inside
  constructor
  · rintro same before other after split name table
    -- The other column comes after the found one, is the found one, or comes before it.
    rw [catalog, List.append_eq_append_iff] at split
    rcases split with ⟨middle, rfl, rest⟩ | ⟨middle, rfl, rest⟩
    · rcases List.cons_eq_append_iff.mp rest with ⟨rfl, here⟩ | ⟨middle, rfl, _⟩
      · obtain ⟨rfl, _⟩ := List.cons.inj here
        exact absurd same.1 table
      · exact ⟨found, by simp, same⟩
    · rcases List.cons_eq_append_iff.mp rest with ⟨rfl, here⟩ | ⟨middle, rfl, _⟩
      · obtain ⟨rfl, _⟩ := List.cons.inj here
        exact absurd same.1 table
      · exact absurd name (nameless other (by simp))
  · intro holds
    refine ⟨?_, findColumn_name resolved⟩
    by_contra table
    obtain ⟨own, inside, _, name⟩ :=
      holds front found back catalog (findColumn_name resolved) table
    exact nameless own inside name

/-- A column holds its name if no other table has a column of that name. -/
theorem holdsItsName_of_unique {chosen : Column}
    (unique : ∀ other ∈ columns, other.name = chosen.name → other.table = chosen.table) :
    HoldsItsName columns chosen := by
  rintro before other after rfl name table
  exact absurd (unique other (by simp) name) table

/-! ## From a choice to a query -/

/--
What becomes of a column that was chosen, under the name that was handed over for it: the
name stands for a column, which is the chosen one exactly if that one holds its name.
-/
structure IsHandedOver (columns : List Column) (chosen : Column) (name : String)
    (resolved : Column) : Prop where
  name_eq : chosen.name = name
  resolves : findColumn columns name = some resolved
  same_iff : SameColumn resolved chosen ↔ HoldsItsName columns chosen

theorem isHandedOver_of_find {chosen resolved : Column} {name : String}
    (name_eq : chosen.name = name) (resolves : findColumn columns name = some resolved) :
    IsHandedOver columns chosen name resolved where
  name_eq := name_eq
  resolves := resolves
  same_iff := sameColumn_iff_holdsItsName (name_eq ▸ resolves)

variable {intent : Intent} {ranked : List Scored}

/-- Each name to group by stands for a column, which is a group. -/
theorem exists_group_of_mem {aggregation : Aggregation} {names : List String}
    {groups : List Column} (grouped : groupColumns columns aggregation names = .ok groups)
    {name : String} (member : name ∈ names) :
    ∃ column ∈ groups, findColumn columns name = some column := by
  rcases groupColumns_cases grouped with ⟨named, _⟩ | ⟨⟨ungrouped, _⟩, _⟩
  · obtain ⟨column, inside, found, _⟩ := exists_of_mem_forall₂ named.flip name member
    exact ⟨column, inside, found⟩
  · rw [ungrouped] at member
    contradiction

/--
The query of a question is on the columns that the names of the chosen columns stand for.
Each filter that is found comes from a detector and is a condition on the column that the
name of the detector's choice stands for; each group is in the SELECT list as the column
that the name of its choice stands for.  Each of these is the chosen column itself exactly
if that one holds its name.
-/
theorem isHandedOver_of_analyze {wellFormed : List Char → Bool} {asked : Asked}
    {today : Calendar.Date} {generated : Generated}
    (analyzed : analyze asked columns today = .ok intent)
    (built : buildWith wellFormed intent.toDraft columns = .ok generated) :
    intent.filters = Detector.detectAll Detector.all asked (rankedColumns asked columns) ∧
      (∃ conditions dates, generated.statement.conditions = conditions ++ dates ∧
        List.Forall₂ (fun filter condition => ∃ detector ∈ Detector.all,
          detector.detect asked (rankedColumns asked columns) = some filter ∧
          ∃ chosen resolved, detector.choice (rankedColumns asked columns) = some chosen ∧
            IsHandedOver columns chosen filter.column resolved ∧
            condition.subject = .ofColumn resolved) intent.filters conditions) ∧
      ∀ name ∈ intent.groupBy, ∃ chosen resolved,
        groupChoice columns (rankedColumns asked columns) = some chosen ∧
          IsHandedOver columns chosen name resolved ∧
          ∃ output ∈ generated.statement.outputs,
            output.expression = .column (.ofColumn resolved) := by
  obtain ⟨_, filters, groupBy⟩ := exists_of_analyze analyzed
  obtain ⟨bound, bindStep, _, statement_eq, _⟩ := exists_bound_of_buildWith built
  obtain ⟨layout, conditions, dates, isOf, numbered, dated, own⟩ :=
    Layout.exists_of_bind bindStep
  rw [statement_eq, own]
  refine ⟨filters, ⟨conditions, dates, rfl, forall₂_of_mem numbered.onColumn ?_⟩, ?_⟩
  · rintro filter member condition _ ⟨resolved, found, subject, _⟩
    rw [filters] at member
    obtain ⟨detector, listed, detected⟩ := List.mem_filterMap.mp member
    obtain ⟨chosen, choice, name⟩ := (isDetected_of_detect detected).column
    exact ⟨detector, listed, detected, chosen, resolved, choice,
      isHandedOver_of_find name found, subject⟩
  · intro name member
    obtain ⟨resolved, grouped, found⟩ := exists_group_of_mem isOf.groups member
    obtain ⟨chosen, choice, same⟩ := exists_of_mem_groupNames (groupBy ▸ member)
    refine ⟨chosen, resolved, choice, isHandedOver_of_find same found,
      groupOutput intent.aggregation resolved, ?_, rfl⟩
    exact List.mem_append_left _ (List.mem_map_of_mem grouped)

/-- A question that is answered by a breakdown. -/
def rankingQuestion : Asked :=
  some "Which station had the most departures?"

theorem isHandedOver_of_analyze_sample :
    ∃ intent generated, analyze rankingQuestion sampleColumns ⟨2025, 6, 15, by decide⟩ =
        .ok intent ∧
      buildWith (fun _ => true) intent.toDraft sampleColumns = .ok generated ∧
      intent.groupBy = ["station_name"] ∧
      ∃ chosen resolved,
        groupChoice sampleColumns (rankedColumns rankingQuestion sampleColumns) = some chosen ∧
        SameColumn resolved chosen ∧
        ∃ output ∈ generated.statement.outputs,
          output.expression = .column (.ofColumn resolved) := by
  have unique : ∀ column ∈ sampleColumns, ∀ other ∈ sampleColumns,
      other.name = column.name → other.table = column.table := by decide
  have computed : (analyze rankingQuestion sampleColumns ⟨2025, 6, 15, by decide⟩).map
      (fun intent => (intent.groupBy,
        (buildWith (fun _ => true) intent.toDraft sampleColumns).isOk)) =
      .ok (["station_name"], true) := by decide +kernel
  obtain ⟨intent, analyzed, found⟩ := map_eq_ok_iff.mp computed
  obtain ⟨groupBy, succeeds⟩ := Prod.mk.inj found
  obtain ⟨generated, built⟩ := exists_eq_ok_of_isOk succeeds
  obtain ⟨_, _, groups⟩ := isHandedOver_of_analyze analyzed built
  obtain ⟨chosen, resolved, choice, handedOver, written⟩ :=
    groups "station_name" (groupBy ▸ List.mem_cons_self)
  have member := mem_of_groupChoice (fun _ => mem_of_mem_rankedColumns) choice
  exact ⟨intent, generated, analyzed, built, groupBy, chosen, resolved, choice,
    handedOver.same_iff.mpr (holdsItsName_of_unique (unique chosen member)), written⟩

/-- A rider's number. -/
def riderId : Column :=
  { table := "users", name := "id", dataType := some "integer", nullable := false }

/-- A station's number, which goes by the same name. -/
def stationId : Column :=
  { riderId with table := "stations" }

/-- The statement that counts departures by rider. -/
def riderDepartures : String :=
  "SELECT u.id, COUNT(*) AS departure_count FROM trips t " ++
    "JOIN users u ON t.user_id = u.user_id GROUP BY id"

/-- The station with the most departures is asked for, and departures are told by the rider. -/
theorem not_sameColumn_riderId :
    groupChoice [riderId, stationId] (rankedColumns rankingQuestion [riderId, stationId]) =
        some stationId ∧
      findColumn [riderId, stationId] "id" = some riderId ∧ ¬SameColumn riderId stationId ∧
      ∃ intent generated,
        analyze rankingQuestion [riderId, stationId] ⟨2025, 6, 15, by decide⟩ = .ok intent ∧
        intent.groupBy = ["id"] ∧
        buildWith Sql.Grammar.accepts intent.toDraft [riderId, stationId] = .ok generated ∧
        generated.sql = riderDepartures := by
  have computed : (analyze rankingQuestion [riderId, stationId]
      ⟨2025, 6, 15, by decide⟩).map (fun intent => (intent.groupBy,
        (buildWith Sql.Grammar.accepts intent.toDraft [riderId, stationId]).map Generated.sql)) =
      .ok (["id"], .ok riderDepartures) := by decide +kernel
  obtain ⟨intent, analyzed, found⟩ := map_eq_ok_iff.mp computed
  obtain ⟨groupBy, query⟩ := Prod.mk.inj found
  obtain ⟨generated, built, sql⟩ := map_eq_ok_iff.mp query
  exact ⟨by decide +kernel, by decide, fun same => absurd same.1 (by decide), intent, generated,
    analyzed, groupBy, built, sql⟩

end RideQuery.Query
