import RideQuery.Proofs.Query.Filters

/-!
# Layouts

Before binding comes to the conditions of an intent, it settles everything else: the
columns that are grouped by, the column that each filter is on, the aggregate and the
joined tables.  A layout is what is settled then, and the dimensions that it joins are
those of the columns that it uses.
-/

namespace RideQuery.Query

open RideQuery.Schema

/-- A statement without its conditions. -/
structure Layout where
  groups : List Column
  /-- The filters, each with the column that it is on. -/
  filters : List (DraftFilter × Column)
  aggregate : Output
  joins : List Join

namespace Layout

/-- The columns of the catalog that filters or groups are on. -/
def used (layout : Layout) : List Column :=
  layout.filters.map Prod.snd ++ layout.groups

/-- The statement that a layout becomes under some conditions. -/
def statement (layout : Layout) (aggregation : Aggregation) (conditions : List Condition) :
    Statement :=
  { outputs := layout.groups.map (groupOutput aggregation) ++ [layout.aggregate]
    joins := layout.joins
    conditions
    groupBy := layout.groups.map Column.name
    topOnly := aggregation == .max && layout.groups.any ofStations }

end Layout

variable {columns : List Column} {intent : Intent} {layout : Layout}

/-- The layout of an intent over a catalog. -/
def layOut (columns : List Column) (intent : Intent) : Building Layout := do
  let groups ← groupColumns columns intent.aggregation intent.groupBy
  let filters ← filterColumns columns (intent.filters.map Filter.toDraft)
  let aggregate ← aggregateOutput columns intent.aggregation
  let joins ← (dimensionsOf (filters.map Prod.snd ++ groups)).mapM (joinOf columns)
  pure { groups, filters, aggregate, joins }

/-- The conditions of an intent, put into its layout. -/
def Layout.complete (layout : Layout) (columns : List Column) (intent : Intent) :
    Building Bound := do
  let (conditions, parameters) ← filterConditions 1 layout.filters
  let dates ← optionalDateConditions columns intent.dateRange
  pure { statement := layout.statement intent.aggregation (conditions ++ dates), parameters }

/-- Binding an intent is laying it out and then completing the layout. -/
theorem bind_toDraft (columns : List Column) (intent : Intent) :
    bind intent.toDraft columns =
      (layOut columns intent >>= fun layout => layout.complete columns intent) := by
  unfold bind layOut Layout.complete
  simp only [bind_assoc, pure_bind]
  rfl

/-! ## Groups and aggregates -/

/-- The groups of an intent: the columns that it names, or the one that is found by default. -/
theorem groupColumns_cases {aggregation : Aggregation} {names : List String}
    {groups : List Column} (grouped : groupColumns columns aggregation names = .ok groups) :
    List.Forall₂ (fun name column =>
        findColumn columns name = some column ∧ isUsable column = true) names groups ∧
        ¬(names = [] ∧ aggregation = .max) ∨
      (names = [] ∧ aggregation = .max) ∧
        ∃ station, stationNameColumn columns = some station ∧ groups = [station] := by
  obtain ⟨resolved, traversed, rest⟩ := bind_eq_ok_iff.mp grouped
  have named : List.Forall₂ (fun name column =>
      findColumn columns name = some column ∧ isUsable column = true) names resolved :=
    (mapM_eq_ok_iff.mp traversed).imp fun _ _ => resolve_text_eq_ok_iff.mp
  have none_iff : resolved = [] ↔ names = [] := by
    rw [← List.length_eq_zero_iff, ← named.length_eq, List.length_eq_zero_iff]
  split at rest
  · rename_i ranking
    rw [Bool.and_eq_true, List.isEmpty_iff, none_iff, beq_iff_eq] at ranking
    obtain ⟨station, required, done⟩ := bind_eq_ok_iff.mp rest
    exact .inr ⟨ranking, station, require_eq_ok_iff.mp required, (pure_eq_ok_iff.mp done).symm⟩
  · rename_i other
    rw [Bool.and_eq_true, List.isEmpty_iff, none_iff, beq_iff_eq] at other
    obtain rfl := pure_eq_ok_iff.mp rest
    exact .inl ⟨named, other⟩

/-- The aggregates, each with the columns that it is made from. -/
inductive IsAggregate (columns : List Column) : Aggregation → Output → Prop
  | average {start finish : Column} (first : startColumn columns = some start)
      (last : endColumn columns = some finish) :
      IsAggregate columns .avg
        { expression := .averageMinutes (.fact finish.name) (.fact start.name)
          label := some averageLabel }
  | distance {column : Column} (found : distanceColumn columns = some column) :
      IsAggregate columns .sum
        { expression := .total (.fact column.name), label := some distanceLabel }
  | departures :
      IsAggregate columns .max { expression := .countAll, label := some departuresLabel }
  | count : IsAggregate columns .count { expression := .countAll, label := some countLabel }
  | least : IsAggregate columns .min { expression := .countAll, label := some countLabel }

theorem isAggregate_of_aggregateOutput {aggregation : Aggregation} {output : Output}
    (made : aggregateOutput columns aggregation = .ok output) :
    IsAggregate columns aggregation output := by
  cases aggregation with
  | avg =>
      obtain ⟨first, firstRequired, rest⟩ := bind_eq_ok_iff.mp made
      obtain ⟨last, lastRequired, done⟩ := bind_eq_ok_iff.mp rest
      obtain rfl := pure_eq_ok_iff.mp done
      obtain ⟨start, startFound, rfl⟩ := requireColumn_eq_ok_iff.mp firstRequired
      obtain ⟨finish, finishFound, rfl⟩ := requireColumn_eq_ok_iff.mp lastRequired
      exact .average startFound finishFound
  | sum =>
      obtain ⟨distance, required, done⟩ := bind_eq_ok_iff.mp made
      obtain rfl := pure_eq_ok_iff.mp done
      obtain ⟨column, found, rfl⟩ := requireColumn_eq_ok_iff.mp required
      exact .distance found
  | max =>
      obtain rfl := pure_eq_ok_iff.mp made
      exact .departures
  | count =>
      obtain rfl := pure_eq_ok_iff.mp made
      exact .count
  | min =>
      obtain rfl := pure_eq_ok_iff.mp made
      exact .least

/-! ## Dimensions -/

theorem dimension_of_joinOf {dimension : Dimension} {join : Join}
    (made : joinOf columns dimension = .ok join) : join.dimension = dimension := by
  cases dimension with
  | weather =>
      obtain ⟨start, _, done⟩ := bind_eq_ok_iff.mp made
      obtain rfl := pure_eq_ok_iff.mp done
      rfl
  | _ =>
      obtain rfl := pure_eq_ok_iff.mp made
      rfl

theorem map_dimension_of_mapM_joinOf {dimensions : List Dimension} {joins : List Join}
    (made : dimensions.mapM (joinOf columns) = .ok joins) :
    joins.map Join.dimension = dimensions := by
  rw [← List.forall₂_eq_eq_eq, List.forall₂_map_left_iff]
  exact (mapM_eq_ok_iff.mp made).flip.imp fun join dimension => dimension_of_joinOf

theorem mem_dimensionsOf_iff {used : List Column} {dimension : Dimension} :
    dimension ∈ dimensionsOf used ↔ ∃ column ∈ used, column.table = dimension.table := by
  have all : dimension ∈ Dimension.all := by cases dimension <;> decide
  simp [dimensionsOf, all, Column.inTable]

/-! ## Inversion -/

/-- What is known of the layout of an intent. -/
structure Layout.Of (layout : Layout) (columns : List Column) (intent : Intent) : Prop where
  groups : groupColumns columns intent.aggregation intent.groupBy = .ok layout.groups
  filters : List.Forall₂ (Resolves columns) intent.filters layout.filters
  aggregate : aggregateOutput columns intent.aggregation = .ok layout.aggregate
  joins : ∀ join ∈ layout.joins, joinOf columns join.dimension = .ok join
  dimensions : layout.joins.map Join.dimension = dimensionsOf layout.used

theorem Layout.Of.isAggregate (isOf : layout.Of columns intent) :
    IsAggregate columns intent.aggregation layout.aggregate :=
  isAggregate_of_aggregateOutput isOf.aggregate

/-- The columns of resolved filters are those that the names of the filters stand for. -/
theorem mem_columns_iff {filters : List Filter} {resolved : List (DraftFilter × Column)}
    (resolves : List.Forall₂ (Resolves columns) filters resolved) {column : Column} :
    column ∈ resolved.map Prod.snd ↔
      ∃ filter ∈ filters, findColumn columns filter.column = some column := by
  induction resolves with
  | nil => simp
  | @cons filter pair _ _ resolve _ inductionHypothesis =>
      obtain ⟨_, found⟩ := resolve
      rw [List.map_cons, List.mem_cons, inductionHypothesis]
      simp [found, eq_comm]

theorem Layout.Of.mem_used_iff (isOf : layout.Of columns intent) {column : Column} :
    column ∈ layout.used ↔
      (∃ filter ∈ intent.filters, findColumn columns filter.column = some column) ∨
        column ∈ layout.groups := by
  rw [Layout.used, List.mem_append, mem_columns_iff isOf.filters]

theorem Layout.of_layOut (laidOut : layOut columns intent = .ok layout) :
    layout.Of columns intent := by
  obtain ⟨groups, grouped, rest⟩ := bind_eq_ok_iff.mp laidOut
  obtain ⟨filters, resolved, rest⟩ := bind_eq_ok_iff.mp rest
  obtain ⟨aggregate, aggregated, rest⟩ := bind_eq_ok_iff.mp rest
  obtain ⟨joins, joined, done⟩ := bind_eq_ok_iff.mp rest
  obtain rfl := pure_eq_ok_iff.mp done
  have own : ∀ join ∈ joins, joinOf columns join.dimension = .ok join := by
    intro join member
    obtain ⟨dimension, _, made⟩ := exists_of_mem_mapM joined join member
    rw [dimension_of_joinOf made, made]
  exact
    { groups := grouped
      filters := resolves_of_filterColumns resolved
      aggregate := aggregated
      joins := own
      dimensions := map_dimension_of_mapM_joinOf joined }

theorem exists_layout_of_bind {bound : Bound}
    (built : bind intent.toDraft columns = .ok bound) :
    ∃ layout, layOut columns intent = .ok layout ∧
      layout.complete columns intent = .ok bound := by
  rw [bind_toDraft] at built
  exact bind_eq_ok_iff.mp built

/-- The conditions of a completed layout: those of the filters, and then those of the dates. -/
theorem Layout.exists_of_complete {bound : Bound}
    (completed : layout.complete columns intent = .ok bound) :
    ∃ conditions dates,
      filterConditions 1 layout.filters = .ok (conditions, bound.parameters) ∧
      optionalDateConditions columns intent.dateRange = .ok dates ∧
      bound.statement = layout.statement intent.aggregation (conditions ++ dates) := by
  obtain ⟨⟨conditions, parameters⟩, filtered, rest⟩ := bind_eq_ok_iff.mp completed
  obtain ⟨dates, dated, done⟩ := bind_eq_ok_iff.mp rest
  obtain rfl := pure_eq_ok_iff.mp done
  exact ⟨conditions, dates, filtered, dated, rfl⟩

/--
A bound statement is a layout of its intent under some conditions: those of the filters,
numbered from 1, and then those of the dates.
-/
theorem Layout.exists_of_bind {bound : Bound} (built : bind intent.toDraft columns = .ok bound) :
    ∃ (layout : Layout) (conditions dates : List Condition), layout.Of columns intent ∧
      Numbered columns 1 intent.filters conditions bound.parameters ∧
      optionalDateConditions columns intent.dateRange = .ok dates ∧
      bound.statement = layout.statement intent.aggregation (conditions ++ dates) := by
  obtain ⟨layout, laidOut, completed⟩ := exists_layout_of_bind built
  have isOf := Layout.of_layOut laidOut
  obtain ⟨conditions, dates, filtered, dated, own⟩ := Layout.exists_of_complete completed
  exact ⟨layout, conditions, dates, isOf, numbered_of_filterConditions isOf.filters filtered,
    dated, own⟩

end RideQuery.Query
