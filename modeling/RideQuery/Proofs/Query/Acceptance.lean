import RideQuery.Proofs.Query.Execution
import RideQuery.Proofs.Query.Refusal
import RideQuery.Proofs.Question.Detection

/-!
# Acceptance of analyzed questions

The intent of a question names columns of the catalog only, passes its values beside the
query and speaks of written dates.  Over a catalog in which trips have a start, an end and
a distance and stations have a name, every such intent has a query.
-/

namespace RideQuery.Query

open RideQuery.Text RideQuery.Number RideQuery.Schema RideQuery.Sql RideQuery.Question

variable {columns : List Column}

/-! ## Catalogs -/

/-- Whether a column of the trips has a name and a data type with given markers. -/
def IsFactColumn (names types : List String) (column : Column) : Prop :=
  column.inTable factTable = true ∧ column.named names = true ∧ column.typed types = true

instance (names types : List String) (column : Column) :
    Decidable (IsFactColumn names types column) :=
  inferInstanceAs (Decidable (_ ∧ _ ∧ _))

/-- Catalogs with plain names and with every column that a query can need. -/
structure IsServable (columns : List Column) : Prop where
  plain : HasPlainNames columns
  start : ∃ column ∈ columns, IsFactColumn ["start"] timeTypes column
  finish : ∃ column ∈ columns, IsFactColumn ["end"] timeTypes column
  distance : ∃ column ∈ columns, IsFactColumn distanceMarkers numericTypes column
  station : ∃ column ∈ columns, isStationName column = true

theorem exists_requireColumn {names types : List String} (needed : Needed)
    (present : ∃ column ∈ columns, IsFactColumn names types column) :
    ∃ reference, requireColumn (factColumn names types columns) needed = .ok reference := by
  obtain ⟨column, member, inTable, named, typed⟩ := present
  have found : (factColumn names types columns).isSome = true := by
    rw [factColumn, List.find?_isSome]
    exact ⟨column, member, by rw [inTable, named, typed]; rfl⟩
  obtain ⟨found, first⟩ := Option.isSome_iff_exists.mp found
  exact ⟨_, requireColumn_eq_ok_iff.mpr ⟨found, first, rfl⟩⟩

theorem IsServable.exists_start (servable : IsServable columns) :
    ∃ start, startReference columns = .ok start :=
  exists_requireColumn .start servable.start

theorem IsServable.exists_stationName (servable : IsServable columns) :
    ∃ column, stationNameColumn columns = some column := by
  obtain ⟨column, member, name⟩ := servable.station
  rw [stationNameColumn]
  split
  · exact ⟨_, rfl⟩
  · exact Option.isSome_iff_exists.mp (List.find?_isSome.mpr ⟨column, member, name⟩)

theorem isIdentifier_of_isPlainIdentifier {name : String}
    (plain : isPlainIdentifier name.toList = true) : isIdentifier name = true := by
  have firm : name.toList.getLast? ≠ some '\n' := by
    intro last
    have identifier :=
      isIdentifierChar_of_isPlainIdentifier plain '\n' (List.mem_of_getLast? last)
    exact absurd identifier (by decide)
  rw [isIdentifier, dropLineEnd_eq_self firm, plain]

/-- The name of a column of the catalog is resolved. -/
theorem HasPlainNames.exists_resolve (plain : HasPlainNames columns) (role : Role)
    {name : String} (present : ∃ column ∈ columns, column.name = name) :
    ∃ column, resolve columns role (.text name) = .ok column := by
  obtain ⟨column, member, rfl⟩ := present
  have known : (findColumn columns column.name).isSome = true :=
    List.find?_isSome.mpr ⟨column, member, beq_self_eq_true _⟩
  obtain ⟨found, first⟩ := Option.isSome_iff_exists.mp known
  obtain ⟨table, name⟩ := plain found (findColumn_mem first)
  have usable : isUsable found = true := by
    rw [isUsable, isIdentifier_of_isPlainIdentifier table,
      isIdentifier_of_isPlainIdentifier name]
    rfl
  exact ⟨found, resolve_text_eq_ok_iff.mpr ⟨first, usable⟩⟩

/-! ## Intents -/

/-- Intents as questions have them: over the catalog, with few filters and written dates. -/
structure IsAnswerable (columns : List Column) (intent : Intent) : Prop where
  known : ∀ filter ∈ intent.filters, ∃ column ∈ columns, column.name = filter.column
  parameterised : ∀ filter ∈ intent.filters, filter.parameterised = true
  operator : ∀ filter ∈ intent.filters, filter.operator ≠ .isIn
  value : ∀ filter ∈ intent.filters, filter.value.IsDisplayable
  few : intent.filters.length ≤ 3
  groupBy : ∀ name ∈ intent.groupBy, ∃ column ∈ columns, column.name = name
  dates : ∀ range ∈ intent.dateRange, IsWritten range

theorem isAnswerable_of_analyze {asked : Asked} {today : Calendar.Date} {intent : Intent}
    (analyzed : analyze asked columns today = .ok intent) : IsAnswerable columns intent := by
  obtain ⟨found, filters, groupBy⟩ := exists_of_analyze analyzed
  have detected : ∀ filter ∈ intent.filters,
      ∃ detector, IsDetected detector (rankedColumns asked columns) filter :=
    filters ▸ isDetected_of_mem_detectAll
  constructor
  case known =>
    intro filter member
    obtain ⟨detector, isDetected⟩ := detected filter member
    obtain ⟨column, chosen, name⟩ := isDetected.column
    obtain ⟨scored, inside, rfl⟩ := Detector.exists_of_choice chosen
    exact ⟨scored.column, mem_of_mem_rankedColumns inside, name⟩
  case parameterised =>
    intro filter member
    obtain ⟨detector, isDetected⟩ := detected filter member
    exact isDetected.parameterised
  case operator =>
    intro filter member
    obtain ⟨detector, isDetected⟩ := detected filter member
    exact isDetected.operator
  case value =>
    intro filter member
    obtain ⟨detector, isDetected⟩ := detected filter member
    exact isDetected.value
  case few => exact filters ▸ length_detectAll_le Detector.all asked (rankedColumns asked columns)
  case groupBy =>
    intro name member
    obtain ⟨column, chosen, same⟩ := exists_of_mem_groupNames (groupBy ▸ member)
    exact ⟨column, mem_of_groupChoice (fun _ => mem_of_mem_rankedColumns) chosen, same⟩
  case dates =>
    intro given member
    rw [Option.mem_def.mp member] at found
    exact isWritten_of_dateRange found

/-! ## Steps of building -/

variable {intent : Intent}

theorem exists_groupColumns (servable : IsServable columns)
    (answerable : IsAnswerable columns intent) (aggregation : Aggregation) :
    ∃ groups, groupColumns columns aggregation intent.groupBy = .ok groups := by
  obtain ⟨resolved, found⟩ := exists_mapM_eq_ok_iff.mpr fun name member =>
    servable.plain.exists_resolve .groupBy (answerable.groupBy name member)
  obtain ⟨station, name⟩ := servable.exists_stationName
  rw [groupColumns, found, ok_bind]
  split
  · rw [require_eq_ok_iff.mpr name]
    exact ⟨_, rfl⟩
  · exact ⟨_, rfl⟩

theorem exists_filterColumns (servable : IsServable columns)
    (answerable : IsAnswerable columns intent) :
    ∃ resolved, filterColumns columns (intent.filters.map Filter.toDraft) = .ok resolved := by
  apply exists_mapM_eq_ok_iff.mpr
  intro draft member
  obtain ⟨filter, inside, rfl⟩ := List.mem_map.mp member
  obtain ⟨column, found⟩ :=
    servable.plain.exists_resolve .filter (answerable.known filter inside)
  have foundDraft : resolve columns .filter filter.toDraft.column = .ok column := found
  rw [foundDraft]
  exact ⟨_, rfl⟩

theorem exists_aggregateOutput (servable : IsServable columns) (aggregation : Aggregation) :
    ∃ output, aggregateOutput columns aggregation = .ok output := by
  obtain ⟨start, startFound⟩ := servable.exists_start
  obtain ⟨finish, finishFound⟩ := exists_requireColumn .finish servable.finish
  obtain ⟨distance, distanceFound⟩ := exists_requireColumn .distance servable.distance
  cases aggregation with
  | avg =>
      rw [aggregateOutput, startFound, endColumn, finishFound]
      exact ⟨_, rfl⟩
  | sum =>
      rw [aggregateOutput, distanceColumn, distanceFound]
      exact ⟨_, rfl⟩
  | _ => exact ⟨_, rfl⟩

theorem exists_joins (servable : IsServable columns) (dimensions : List Dimension) :
    ∃ joins, dimensions.mapM (joinOf columns) = .ok joins := by
  apply exists_mapM_eq_ok_iff.mpr
  intro dimension _
  obtain ⟨start, found⟩ := servable.exists_start
  cases dimension with
  | weather =>
      rw [joinOf, found]
      exact ⟨_, rfl⟩
  | _ => exact ⟨_, rfl⟩

theorem exists_layOut (servable : IsServable columns)
    (answerable : IsAnswerable columns intent) :
    ∃ layout, layOut columns intent = .ok layout := by
  obtain ⟨groups, grouped⟩ := exists_groupColumns servable answerable intent.aggregation
  obtain ⟨resolved, found⟩ := exists_filterColumns servable answerable
  obtain ⟨aggregate, aggregated⟩ := exists_aggregateOutput servable intent.aggregation
  obtain ⟨joins, joined⟩ :=
    exists_joins servable (dimensionsOf (resolved.map Prod.snd ++ groups))
  rw [layOut, grouped, ok_bind, found, ok_bind, aggregated, ok_bind, joined]
  exact ⟨_, rfl⟩

/-- Filters that pass one value each can be expressed. -/
theorem IsAnswerable.isExpressible (answerable : IsAnswerable columns intent) :
    ∀ filter ∈ intent.filters, filter.IsExpressible := by
  intro filter member
  rw [Filter.IsExpressible, if_neg (answerable.operator filter member)]
  exact .inl (answerable.parameterised filter member)

theorem exists_bind (servable : IsServable columns) (answerable : IsAnswerable columns intent) :
    ∃ bound, bind intent.toDraft columns = .ok bound := by
  obtain ⟨layout, laidOut⟩ := exists_layOut servable answerable
  have isOf := Layout.of_layOut laidOut
  obtain ⟨conditions, filtered⟩ :=
    (exists_filterConditions_iff isOf.filters).mpr answerable.isExpressible
  obtain ⟨start, required⟩ := servable.exists_start
  obtain ⟨dates, dated⟩ := exists_optionalDateConditions required answerable.dates
  rw [bind_toDraft, laidOut, ok_bind, Layout.complete, filtered, ok_bind]
  dsimp only
  rw [dated]
  exact ⟨_, rfl⟩

theorem exists_explain (answerable : IsAnswerable columns intent) :
    ∃ text, explain intent.toDraft columns = .ok text :=
  exists_explain_iff.mpr fun filter member _ => answerable.value filter member

/-! ## Queries -/

/-- A few placeholders that are numbered from 1 are as many as they seem. -/
theorem checkText_of_few {wellFormed : List Char → Bool} {text : List Char}
    {parameters : List Value} (few : parameters.length ≤ 3)
    (numbered : placeholderDigits text = (List.range' 1 parameters.length).map numeral)
    (accepts : wellFormed (withoutPlaceholders text) = true) :
    checkText wellFormed text parameters = .ok () := by
  have short : ∀ count ≤ 3, ∀ number ∈ List.range' 1 count,
      (numeral number).length ≤ maxDigits := by decide
  have distinct : ∀ count ≤ 3, (List.range' 1 count).eraseDups.length = count := by decide
  have read : placeholders text = .ok (List.range' 1 parameters.length) :=
    (placeholders_eq_ok_iff numbered).mpr ⟨rfl, short _ few⟩
  rw [checkText_eq_ok_iff]
  exact ⟨⟨_, read, distinct _ few⟩, accepts⟩

/--
Every question that is analyzed has a query, provided that the recogniser of SQL accepts
the statement that its intent is bound to.
-/
theorem exists_buildWith_of_analyze {wellFormed : List Char → Bool} {asked : Asked}
    {today : Calendar.Date} (servable : IsServable columns)
    (accepts : ∀ bound, bind intent.toDraft columns = .ok bound →
      wellFormed (withoutPlaceholders bound.statement.text) = true)
    (analyzed : analyze asked columns today = .ok intent) :
    ∃ generated, buildWith wellFormed intent.toDraft columns = .ok generated := by
  have answerable := isAnswerable_of_analyze analyzed
  obtain ⟨bound, bindStep⟩ := exists_bind servable answerable
  obtain ⟨_, _, _, _, numbered, _⟩ := Layout.exists_of_bind bindStep
  have few : bound.parameters.length ≤ 3 := by
    rw [numbered.parameters_eq, List.length_map]
    exact (List.length_filter_le ..).trans answerable.few
  have checked := checkText_of_few few (placeholderDigits_of_bind servable.plain bindStep)
    (accepts bound bindStep)
  obtain ⟨explanation, explained⟩ : ∃ text, explain intent.toDraft columns = .ok text :=
    exists_explain answerable
  rw [buildWith, bindStep, ok_bind, checked, ok_bind, numeric_eq_ok_iff.mpr explained]
  exact ⟨_, rfl⟩

theorem isServable_sampleColumns : IsServable sampleColumns where
  plain := hasPlainNames_sampleColumns
  start := by decide
  finish := by decide
  distance := by decide
  station := by decide

theorem exists_buildWith_of_analyze_sample :
    IsServable sampleColumns ∧
      ∃ intent generated,
        analyze (some "Which station had the most departures in May 2024?") sampleColumns
            ⟨2025, 6, 15, by decide⟩ = .ok intent ∧
          buildWith (fun _ => true) intent.toDraft sampleColumns = .ok generated := by
  obtain ⟨intent, analyzed⟩ : ∃ intent,
      analyze (some "Which station had the most departures in May 2024?") sampleColumns
        ⟨2025, 6, 15, by decide⟩ = .ok intent :=
    exists_eq_ok_of_isOk (by decide +kernel)
  obtain ⟨generated, built⟩ : ∃ generated,
      buildWith (fun _ => true) intent.toDraft sampleColumns = .ok generated :=
    exists_buildWith_of_analyze isServable_sampleColumns (fun _ _ => rfl) analyzed
  exact ⟨isServable_sampleColumns, intent, generated, analyzed, built⟩

end RideQuery.Query
