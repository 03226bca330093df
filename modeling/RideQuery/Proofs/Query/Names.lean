import RideQuery.Proofs.Query.Acceptance
import RideQuery.Proofs.Query.Scope

/-!
# Names of the catalog in statements

The names that a statement takes from the catalog are those of its references and of its
groups.  They come in by two kinds of way: the columns that an intent names are checked to be
identifiers, while the columns that are found by their markers are written as they are.  The
check lets a line break at the end of a name through.
-/

namespace RideQuery.Query

open RideQuery.Text RideQuery.Schema RideQuery.Sql

/-! ## Names in a text -/

/-- The names that a statement takes from the catalog. -/
def Statement.columnNames (statement : Statement) : List String :=
  statement.references.map Reference.name ++ statement.groupBy

theorem Reference.name_infix_text (reference : Reference) :
    reference.name.toList <:+: reference.text := by
  have own : reference.name.toList <:+ '.' :: reference.name.toList := List.suffix_cons ..
  exact (own.trans (List.suffix_append ..)).isInfix

theorem infix_dayOf (reference : Reference) : reference.text <:+: dayOf reference :=
  List.infix_append ..

theorem Expression.infix_text {expression : Expression} {reference : Reference}
    (member : reference ∈ expression.references) : reference.text <:+: expression.text := by
  cases expression with
  | column own =>
      obtain rfl := List.mem_singleton.mp member
      exact List.infix_rfl
  | countAll => contradiction
  | averageMinutes last first =>
      unfold Expression.text
      simp only [List.append_assoc]
      rcases List.mem_pair.mp member with rfl | rfl
      · exact List.infix_append' ..
      · simp only [← List.append_assoc]
        exact List.infix_append ..
  | total own =>
      obtain rfl := List.mem_singleton.mp member
      exact List.infix_append ..

theorem Join.infix_text {join : Join} {reference : Reference}
    (member : reference ∈ join.references) : reference.text <:+: join.text := by
  cases join with
  | weather start =>
      obtain rfl := List.mem_singleton.mp member
      exact (infix_dayOf reference).trans (List.infix_append ..)
  | _ => contradiction

theorem Condition.infix_text (condition : Condition) :
    condition.subject.text <:+: condition.text := by
  cases condition with
  | compare target operator operand =>
      unfold Condition.text
      simp only [List.append_assoc]
      exact (List.prefix_append ..).isInfix
  | anyOf target number =>
      unfold Condition.text
      simp only [List.append_assoc]
      exact (List.prefix_append ..).isInfix
  | oneOf target literals =>
      unfold Condition.text
      simp only [List.append_assoc]
      exact (List.prefix_append ..).isInfix
  | between start first last =>
      unfold Condition.text
      simp only [List.append_assoc]
      exact (infix_dayOf start).trans (List.prefix_append ..).isInfix
  | inMonth start month => exact (List.infix_append ..).trans (List.prefix_append ..).isInfix
  | inYear start year => exact (List.infix_append ..).trans (List.prefix_append ..).isInfix

namespace Statement

variable {statement : Statement}

theorem join_infix_text {join : Join} (member : join ∈ statement.joins) :
    join.text <:+: statement.text := by
  have inside : join.text <:+: statement.joinText :=
    (List.suffix_cons ' ' join.text).isInfix.trans
      (List.infix_of_mem_flatten (List.mem_map_of_mem member))
  unfold text
  simp only [List.append_assoc]
  exact inside.trans (List.infix_append' ..)

theorem group_infix_text {name : String} (member : name ∈ statement.groupBy) :
    name.toList <:+: statement.text := by
  have some : ¬statement.groupBy.isEmpty = true := by
    rw [List.isEmpty_iff]
    exact List.ne_nil_of_mem member
  have inside : name.toList <:+: statement.groupText := by
    rw [groupText, if_neg some]
    exact (infix_intercalate (List.mem_map_of_mem member)).trans (List.infix_append_right ..)
  unfold text
  exact inside.trans ((List.suffix_append ..).isInfix.trans (List.infix_append_left ..))

/-- Every name that a statement takes from the catalog stands in its text. -/
theorem columnName_infix_text {name : String} (member : name ∈ statement.columnNames) :
    name.toList <:+: statement.text := by
  rcases List.mem_append.mp member with named | grouped
  · obtain ⟨reference, referred, rfl⟩ := List.mem_map.mp named
    refine reference.name_infix_text.trans ?_
    simp only [references, List.mem_append, List.mem_flatMap, List.mem_map] at referred
    rcases referred with (⟨output, inside, made⟩ | ⟨join, inside, made⟩) | ⟨condition, inside, rfl⟩
    · have written : output.expression.text <:+: output.text := by
        rw [Output.text]
        split
        · simp only [List.append_assoc]
          exact (List.prefix_append ..).isInfix
        · exact List.infix_rfl
      exact (Expression.infix_text made).trans (written.trans (output_infix_text inside))
    · exact (Join.infix_text made).trans (join_infix_text inside)
    · exact condition.infix_text.trans (condition_infix_text inside)
  · exact group_infix_text grouped

end Statement

/-! ## Ways in -/

variable {columns : List Column} {intent : Intent}

/-- The columns that an intent names, for a filter or for a group. -/
inductive IsNamed (columns : List Column) (intent : Intent) (column : Column) : Prop
  | filter {filter : Filter} (member : filter ∈ intent.filters)
      (found : findColumn columns filter.column = some column)
  | group {name : String} (member : name ∈ intent.groupBy)
      (found : findColumn columns name = some column)

/-- Date ranges that are a condition on the start of a trip. -/
def Restricts (range : DateRange) : Prop :=
  range.bounds? ≠ none ∨ nonempty? range.specificMonth ≠ none ∨
    nonempty? range.specificYear ≠ none

/-- Intents whose statement speaks of the start of a trip. -/
inductive NeedsStart (columns : List Column) (intent : Intent) : Prop
  | average (aggregation : intent.aggregation = .avg)
  | weather {column : Column} (named : IsNamed columns intent column)
      (table : column.table = Dimension.weather.table)
  | dates {range : DateRange} (given : intent.dateRange = some range)
      (restricts : Restricts range)

/-- The columns that a statement is written with because their markers were found. -/
inductive IsFound (columns : List Column) (intent : Intent) (column : Column) : Prop
  | station (ungrouped : intent.groupBy = []) (aggregation : intent.aggregation = .max)
      (found : stationNameColumn columns = some column)
  | start (needed : NeedsStart columns intent) (found : startColumn columns = some column)
  | finish (aggregation : intent.aggregation = .avg) (found : endColumn columns = some column)
  | distance (aggregation : intent.aggregation = .sum)
      (found : distanceColumn columns = some column)

/-! ## Names by their ways in -/

theorem mem_groups_iff {groups : List Column}
    (grouped : groupColumns columns intent.aggregation intent.groupBy = .ok groups)
    {column : Column} :
    column ∈ groups ↔ (∃ name ∈ intent.groupBy, findColumn columns name = some column) ∨
      (intent.groupBy = [] ∧ intent.aggregation = .max) ∧
        stationNameColumn columns = some column := by
  rcases groupColumns_cases grouped with ⟨named, other⟩ | ⟨default, station, found, rfl⟩
  · constructor
    · intro member
      obtain ⟨name, inside, found, _⟩ := exists_of_mem_forall₂ named column member
      exact .inl ⟨name, inside, found⟩
    · rintro (⟨name, inside, found⟩ | ⟨default, _⟩)
      · obtain ⟨own, member, again, _⟩ := exists_of_mem_forall₂ named.flip name inside
        obtain rfl := Option.some.inj (found.symm.trans again)
        exact member
      · exact absurd default other
  · rw [List.mem_singleton]
    constructor
    · rintro rfl
      exact .inr ⟨default, found⟩
    · rintro (⟨name, inside, _⟩ | ⟨_, again⟩)
      · rw [default.1] at inside
        contradiction
      · exact Option.some.inj (again.symm.trans found)

/-- The columns that an aggregate is made from. -/
theorem IsAggregate.mem_references_iff {aggregation : Aggregation} {output : Output}
    (aggregate : IsAggregate columns aggregation output) {reference : Reference} :
    reference ∈ output.expression.references ↔
      ∃ column, .fact column.name = reference ∧
        (aggregation = .avg ∧ (startColumn columns = some column ∨
            endColumn columns = some column) ∨
          aggregation = .sum ∧ distanceColumn columns = some column) := by
  cases aggregate with
  | @average start finish startFound finishFound =>
      rw [Expression.references, List.mem_pair]
      constructor
      · rintro (rfl | rfl)
        · exact ⟨finish, rfl, .inl ⟨rfl, .inr finishFound⟩⟩
        · exact ⟨start, rfl, .inl ⟨rfl, .inl startFound⟩⟩
      · rintro ⟨column, rfl, ⟨_, found | found⟩ | ⟨sum, _⟩⟩
        · obtain rfl := Option.some.inj (startFound.symm.trans found)
          exact .inr rfl
        · obtain rfl := Option.some.inj (finishFound.symm.trans found)
          exact .inl rfl
        · contradiction
  | @distance own ownFound =>
      rw [Expression.references, List.mem_singleton]
      constructor
      · rintro rfl
        exact ⟨own, rfl, .inr ⟨rfl, ownFound⟩⟩
      · rintro ⟨column, rfl, ⟨average, _⟩ | ⟨_, found⟩⟩
        · contradiction
        · obtain rfl := Option.some.inj (ownFound.symm.trans found)
          rfl
  | _ => simp [Expression.references]

/-- The weather is joined by the start of a trip, and nothing else is joined by a column. -/
theorem Layout.Of.mem_references_joins_iff {layout : Layout} (isOf : layout.Of columns intent)
    {reference : Reference} :
    (∃ join ∈ layout.joins, reference ∈ join.references) ↔
      .weather ∈ layout.joins.map Join.dimension ∧
        ∃ column, startColumn columns = some column ∧ .fact column.name = reference := by
  have own : ∀ start, .weather start ∈ layout.joins →
      ∃ column, startColumn columns = some column ∧ .fact column.name = start := by
    intro start joined
    obtain ⟨other, required, done⟩ := bind_eq_ok_iff.mp (isOf.joins _ joined)
    obtain rfl := Join.weather.inj (pure_eq_ok_iff.mp done)
    exact requireColumn_eq_ok_iff.mp required
  constructor
  · rintro ⟨join, joined, member⟩
    cases join with
    | weather start =>
        obtain rfl := List.mem_singleton.mp member
        exact ⟨List.mem_map.mpr ⟨_, joined, rfl⟩, own _ joined⟩
    | _ => contradiction
  · rintro ⟨weather, column, found, rfl⟩
    obtain ⟨join, joined, dimension⟩ := List.mem_map.mp weather
    cases join with
    | weather start =>
        obtain ⟨other, again, rfl⟩ := own start joined
        obtain rfl := Option.some.inj (found.symm.trans again)
        exact ⟨_, joined, List.mem_singleton_self _⟩
    | _ => contradiction

/-- A condition is put on the column that the name of its filter stands for. -/
theorem Numbered.mem_subjects_iff {number : Nat} {filters : List Filter}
    {conditions : List Condition} {parameters : List Value}
    (numbered : Numbered columns number filters conditions parameters) {reference : Reference} :
    reference ∈ conditions.map Condition.subject ↔
      ∃ filter ∈ filters, ∃ column, findColumn columns filter.column = some column ∧
        .ofColumn column = reference := by
  rw [List.mem_map]
  constructor
  · rintro ⟨condition, member, rfl⟩
    obtain ⟨filter, inside, column, found, subject, _⟩ :=
      exists_of_mem_forall₂ numbered.onColumn condition member
    exact ⟨filter, inside, column, found, subject.symm⟩
  · rintro ⟨filter, inside, column, found, rfl⟩
    obtain ⟨condition, member, own, again, subject, _⟩ :=
      exists_of_mem_forall₂ numbered.onColumn.flip filter inside
    obtain rfl := Option.some.inj (found.symm.trans again)
    exact ⟨condition, member, subject⟩

theorem monthCondition_ne_nil_iff {start : Reference} {month : Option String}
    {conditions : List Condition} (made : monthCondition start month = .ok conditions) :
    conditions ≠ [] ↔ month ≠ none := by
  cases month with
  | none =>
      obtain rfl := pure_eq_ok_iff.mp made
      simp
  | some text =>
      obtain ⟨number, _, done⟩ := bind_eq_ok_iff.mp made
      obtain rfl := pure_eq_ok_iff.mp done
      simp

theorem yearCondition_ne_nil_iff {start : Reference} {year : Option String}
    {conditions : List Condition} (made : yearCondition start year = .ok conditions) :
    conditions ≠ [] ↔ year ≠ none := by
  cases year with
  | none =>
      obtain rfl := pure_eq_ok_iff.mp made
      simp
  | some text =>
      obtain ⟨number, _, done⟩ := bind_eq_ok_iff.mp made
      obtain rfl := pure_eq_ok_iff.mp done
      simp

/-- Only a range that restricts the dates becomes conditions. -/
theorem dateConditions_ne_nil_iff {range : DateRange} {dates : List Condition}
    (made : dateConditions columns range = .ok dates) : dates ≠ [] ↔ Restricts range := by
  rw [dateConditions] at made
  split at made
  · rename_i first last bounds
    obtain ⟨_, _, rest⟩ := bind_eq_ok_iff.mp made
    obtain ⟨_, _, rest⟩ := bind_eq_ok_iff.mp rest
    obtain ⟨start, _, done⟩ := bind_eq_ok_iff.mp rest
    obtain rfl := pure_eq_ok_iff.mp done
    simp [Restricts, bounds]
  · rename_i unbounded
    dsimp only at made
    split at made
    · rename_i neither
      rw [Bool.and_eq_true, Option.isNone_iff_eq_none, Option.isNone_iff_eq_none] at neither
      obtain rfl := pure_eq_ok_iff.mp made
      simp [Restricts, unbounded, neither]
    · obtain ⟨start, _, rest⟩ := bind_eq_ok_iff.mp made
      obtain ⟨inMonth, monthMade, rest⟩ := bind_eq_ok_iff.mp rest
      obtain ⟨inYear, yearMade, done⟩ := bind_eq_ok_iff.mp rest
      obtain rfl := pure_eq_ok_iff.mp done
      rw [Restricts, ← monthCondition_ne_nil_iff monthMade, ← yearCondition_ne_nil_iff yearMade]
      simp [unbounded, imp_iff_not_or]

/-- The conditions of the dates are put on the start of a trip. -/
theorem mem_subjects_dates_iff {range : Option DateRange} {dates : List Condition}
    (made : optionalDateConditions columns range = .ok dates) {reference : Reference} :
    reference ∈ dates.map Condition.subject ↔
      (∃ given, range = some given ∧ Restricts given) ∧
        ∃ column, startColumn columns = some column ∧ .fact column.name = reference := by
  have onStart : ∀ condition ∈ dates, startReference columns = .ok condition.subject := by
    intro condition member
    cases onStart_of_optionalDateConditions made condition member with
    | between required => exact required
    | inMonth required => exact required
    | inYear required => exact required
  have some_iff : dates ≠ [] ↔ ∃ given, range = some given ∧ Restricts given := by
    cases range with
    | none =>
        obtain rfl := pure_eq_ok_iff.mp made
        simp
    | some given => simpa using dateConditions_ne_nil_iff made
  rw [← some_iff, List.mem_map]
  constructor
  · rintro ⟨condition, member, rfl⟩
    exact ⟨List.ne_nil_of_mem member, requireColumn_eq_ok_iff.mp (onStart condition member)⟩
  · rintro ⟨nonempty, found⟩
    obtain ⟨condition, member⟩ := List.exists_mem_of_ne_nil dates nonempty
    have required : startReference columns = .ok reference := requireColumn_eq_ok_iff.mpr found
    exact ⟨condition, member, Except.ok.inj ((onStart condition member).symm.trans required)⟩

theorem Layout.mem_references_statement_iff {layout : Layout} {aggregation : Aggregation}
    {conditions dates : List Condition} {reference : Reference} :
    reference ∈ (layout.statement aggregation (conditions ++ dates)).references ↔
      (((∃ column ∈ layout.groups, .ofColumn column = reference) ∨
          reference ∈ layout.aggregate.expression.references) ∨
        ∃ join ∈ layout.joins, reference ∈ join.references) ∨
      reference ∈ conditions.map Condition.subject ∨ reference ∈ dates.map Condition.subject := by
  have ofGroup : ∀ column, (groupOutput aggregation column).expression.references =
      [.ofColumn column] := fun _ => rfl
  simp only [Statement.references, statement, List.flatMap_append, List.flatMap_map, ofGroup,
    List.flatMap_singleton, List.map_append, List.mem_append, List.mem_flatMap, List.mem_map,
    List.mem_singleton, eq_comm]

theorem table_of_stationNameColumn {column : Column}
    (found : stationNameColumn columns = some column) :
    column.table = Dimension.stations.table := by
  have station : isStationName column = true := by
    rw [stationNameColumn] at found
    split at found
    · rename_i textual first
      obtain rfl := Option.some.inj found
      have both := List.find?_some first
      exact (Bool.and_eq_true_iff.mp both).1
    · exact List.find?_some found
  exact beq_iff_eq.mp (Bool.and_eq_true_iff.mp station).1

theorem Layout.Of.weather_joined_iff {layout : Layout} (isOf : layout.Of columns intent) :
    .weather ∈ layout.joins.map Join.dimension ↔
      ∃ column, IsNamed columns intent column ∧ column.table = Dimension.weather.table := by
  rw [isOf.joined]
  constructor
  · rintro (⟨filter, member, column, found, table⟩ | ⟨column, grouped, table⟩)
    · exact ⟨column, .filter member found, table⟩
    · rcases (mem_groups_iff isOf.groups).mp grouped with ⟨name, member, found⟩ | ⟨_, found⟩
      · exact ⟨column, .group member found, table⟩
      · have station := table_of_stationNameColumn found
        rw [table] at station
        exact absurd station (by decide)
  · rintro ⟨column, named, table⟩
    cases named with
    | filter member found => exact .inl ⟨_, member, column, found, table⟩
    | group member found =>
        exact .inr ⟨column, (mem_groups_iff isOf.groups).mpr (.inl ⟨_, member, found⟩), table⟩

theorem Statement.name_mem_columnNames {statement : Statement} {reference : Reference}
    (referred : reference ∈ statement.references) :
    reference.name ∈ statement.columnNames :=
  List.mem_append_left _ (List.mem_map_of_mem referred)

section Ways

variable {layout : Layout} {conditions dates : List Condition} {parameters : List Value}
  {name : String}

theorem Layout.Of.isNamed_or_isFound (isOf : layout.Of columns intent) {column : Column}
    (grouped : column ∈ layout.groups) :
    IsNamed columns intent column ∨ IsFound columns intent column := by
  rcases (mem_groups_iff isOf.groups).mp grouped with
    ⟨name, member, found⟩ | ⟨⟨ungrouped, aggregation⟩, found⟩
  · exact .inl (.group member found)
  · exact .inr (.station ungrouped aggregation found)

/-- Every name in a statement came in by one of the ways. -/
theorem Layout.Of.exists_of_mem_columnNames (isOf : layout.Of columns intent)
    (numbered : Numbered columns 1 intent.filters conditions parameters)
    (dated : optionalDateConditions columns intent.dateRange = .ok dates)
    (member : name ∈
      (layout.statement intent.aggregation (conditions ++ dates)).columnNames) :
    ∃ column, (IsNamed columns intent column ∨ IsFound columns intent column) ∧
      column.name = name := by
  rcases List.mem_append.mp member with named | grouped
  · obtain ⟨reference, referred, rfl⟩ := List.mem_map.mp named
    rcases Layout.mem_references_statement_iff.mp referred with
      ((⟨column, grouped, rfl⟩ | aggregate) | joined) | filtered | date
    · exact ⟨column, isOf.isNamed_or_isFound grouped, rfl⟩
    · obtain ⟨column, rfl, ⟨average, found | found⟩ | ⟨sum, found⟩⟩ :=
        isOf.isAggregate.mem_references_iff.mp aggregate
      · exact ⟨column, .inr (.start (.average average) found), rfl⟩
      · exact ⟨column, .inr (.finish average found), rfl⟩
      · exact ⟨column, .inr (.distance sum found), rfl⟩
    · obtain ⟨weather, column, found, rfl⟩ := isOf.mem_references_joins_iff.mp joined
      obtain ⟨other, named, table⟩ := isOf.weather_joined_iff.mp weather
      exact ⟨column, .inr (.start (.weather named table) found), rfl⟩
    · obtain ⟨filter, inside, column, found, rfl⟩ := numbered.mem_subjects_iff.mp filtered
      exact ⟨column, .inl (.filter inside found), rfl⟩
    · obtain ⟨⟨range, given, restricts⟩, column, found, rfl⟩ :=
        (mem_subjects_dates_iff dated).mp date
      exact ⟨column, .inr (.start (.dates given restricts) found), rfl⟩
  · obtain ⟨column, inside, rfl⟩ := List.mem_map.mp grouped
    exact ⟨column, isOf.isNamed_or_isFound inside, rfl⟩

theorem Layout.Of.mem_columnNames_of_isNamed (isOf : layout.Of columns intent)
    (numbered : Numbered columns 1 intent.filters conditions parameters) {column : Column}
    (named : IsNamed columns intent column) :
    column.name ∈ (layout.statement intent.aggregation (conditions ++ dates)).columnNames := by
  cases named with
  | filter member found =>
      have filtered := numbered.mem_subjects_iff.mpr ⟨_, member, column, found, rfl⟩
      exact Statement.name_mem_columnNames
        (Layout.mem_references_statement_iff.mpr (.inr (.inl filtered)))
  | group member found =>
      have grouped := (mem_groups_iff isOf.groups).mpr (.inl ⟨_, member, found⟩)
      exact List.mem_append_right _ (List.mem_map_of_mem grouped)

/-- A statement that speaks of the start of a trip holds the name of its column. -/
theorem Layout.Of.mem_columnNames_of_needsStart (isOf : layout.Of columns intent)
    (dated : optionalDateConditions columns intent.dateRange = .ok dates) {column : Column}
    (needed : NeedsStart columns intent) (found : startColumn columns = some column) :
    column.name ∈ (layout.statement intent.aggregation (conditions ++ dates)).columnNames := by
  suffices referred : Reference.fact column.name ∈
      (layout.statement intent.aggregation (conditions ++ dates)).references from
    Statement.name_mem_columnNames referred
  rw [Layout.mem_references_statement_iff]
  cases needed with
  | average aggregation =>
      have aggregate := isOf.isAggregate.mem_references_iff.mpr
        ⟨column, rfl, .inl ⟨aggregation, .inl found⟩⟩
      exact .inl (.inl (.inr aggregate))
  | weather named table =>
      have weather := isOf.weather_joined_iff.mpr ⟨_, named, table⟩
      have joined := isOf.mem_references_joins_iff.mpr ⟨weather, column, found, rfl⟩
      exact .inl (.inr joined)
  | dates given restricts =>
      have date := (mem_subjects_dates_iff dated).mpr
        ⟨⟨_, given, restricts⟩, column, found, rfl⟩
      exact .inr (.inr date)

theorem Layout.Of.mem_columnNames_of_isFound (isOf : layout.Of columns intent)
    (dated : optionalDateConditions columns intent.dateRange = .ok dates) {column : Column}
    (found : IsFound columns intent column) :
    column.name ∈ (layout.statement intent.aggregation (conditions ++ dates)).columnNames := by
  cases found with
  | station ungrouped aggregation found =>
      have grouped :=
        (mem_groups_iff isOf.groups).mpr (.inr ⟨⟨ungrouped, aggregation⟩, found⟩)
      exact List.mem_append_right _ (List.mem_map_of_mem grouped)
  | start needed found => exact isOf.mem_columnNames_of_needsStart dated needed found
  | finish aggregation found =>
      have aggregate := isOf.isAggregate.mem_references_iff.mpr
        ⟨column, rfl, .inl ⟨aggregation, .inr found⟩⟩
      exact Statement.name_mem_columnNames
        (Layout.mem_references_statement_iff.mpr (.inl (.inl (.inr aggregate))))
  | distance aggregation found =>
      have aggregate := isOf.isAggregate.mem_references_iff.mpr
        ⟨column, rfl, .inr ⟨aggregation, found⟩⟩
      exact Statement.name_mem_columnNames
        (Layout.mem_references_statement_iff.mpr (.inl (.inl (.inr aggregate))))

/-- The names in a statement are those of the columns that are named or found for it. -/
theorem Layout.Of.mem_columnNames_iff (isOf : layout.Of columns intent)
    (numbered : Numbered columns 1 intent.filters conditions parameters)
    (dated : optionalDateConditions columns intent.dateRange = .ok dates) :
    name ∈ (layout.statement intent.aggregation (conditions ++ dates)).columnNames ↔
      ∃ column, (IsNamed columns intent column ∨ IsFound columns intent column) ∧
        column.name = name := by
  constructor
  · exact isOf.exists_of_mem_columnNames numbered dated
  · rintro ⟨column, named | found, rfl⟩
    · exact isOf.mem_columnNames_of_isNamed numbered named
    · exact isOf.mem_columnNames_of_isFound dated found

end Ways

/-! ## Checked names -/

/-- An identifier that passes the check is plain unless a line break ends it. -/
theorem isPlainIdentifier_iff {name : String} (checked : isIdentifier name = true) :
    isPlainIdentifier name.toList = true ↔ name.toList.getLast? ≠ some '\n' := by
  constructor
  · intro plain last
    have identifier :=
      isIdentifierChar_of_isPlainIdentifier plain '\n' (List.mem_of_getLast? last)
    exact absurd identifier (by decide)
  · intro firm
    rw [isIdentifier, dropLineEnd_eq_self firm] at checked
    exact checked

example : isIdentifier "amount\n" = true ∧ isPlainIdentifier "amount\n".toList = false := by
  decide

/-- The columns that an intent names have been checked if it has a layout. -/
theorem isUsable_of_layOut {layout : Layout} (laidOut : layOut columns intent = .ok layout)
    {column : Column} (named : IsNamed columns intent column) : isUsable column = true := by
  obtain ⟨groups, grouped, rest⟩ := bind_eq_ok_iff.mp laidOut
  obtain ⟨filters, resolved, _⟩ := bind_eq_ok_iff.mp rest
  cases named with
  | @filter filter member found =>
      obtain ⟨pair, _, step⟩ := exists_of_mem_forall₂ (mapM_eq_ok_iff.mp resolved).flip
        filter.toDraft (List.mem_map_of_mem member)
      obtain ⟨own, checked, _⟩ := bind_eq_ok_iff.mp step
      obtain ⟨again, usable⟩ := resolve_text_eq_ok_iff.mp checked
      obtain rfl := Option.some.inj (found.symm.trans again)
      exact usable
  | @group name member found =>
      rcases groupColumns_cases grouped with ⟨checked, _⟩ | ⟨⟨ungrouped, _⟩, _⟩
      · obtain ⟨own, _, again, usable⟩ := exists_of_mem_forall₂ checked.flip name member
        obtain rfl := Option.some.inj (found.symm.trans again)
        exact usable
      · rw [ungrouped] at member
        contradiction

/--
The names that the statement of an intent takes from the catalog are exactly those of the
columns that the intent names and of the columns that are found for it by their markers, and
each of them stands in the text.  Those of named columns pass for identifiers.  So all of them
are plain exactly if no line break ends the name of a named column and the found columns,
which nothing checks, happen to have plain names.
-/
theorem mem_columnNames_iff_of_buildWith {wellFormed : List Char → Bool}
    {generated : Generated} (built : buildWith wellFormed intent.toDraft columns = .ok generated) :
    (∀ name, name ∈ generated.statement.columnNames ↔
        ∃ column, (IsNamed columns intent column ∨ IsFound columns intent column) ∧
          column.name = name) ∧
      (∀ name ∈ generated.statement.columnNames, name.toList <:+: generated.sql.toList) ∧
      (∀ column, IsNamed columns intent column → isIdentifier column.name = true) ∧
      ((∀ name ∈ generated.statement.columnNames, isPlainIdentifier name.toList = true) ↔
        (∀ column, IsNamed columns intent column → column.name.toList.getLast? ≠ some '\n') ∧
          ∀ column, IsFound columns intent column →
            isPlainIdentifier column.name.toList = true) := by
  obtain ⟨bound, bindStep, _, statement_eq, _⟩ := exists_bound_of_buildWith built
  obtain ⟨layout, laidOut, completed⟩ := exists_layout_of_bind bindStep
  have isOf := Layout.of_layOut laidOut
  obtain ⟨conditions, dates, filtered, dated, own⟩ := Layout.exists_of_complete completed
  have numbered := numbered_of_filterConditions isOf.filters filtered
  have names : ∀ name, name ∈ generated.statement.columnNames ↔
      ∃ column, (IsNamed columns intent column ∨ IsFound columns intent column) ∧
        column.name = name := by
    intro name
    rw [statement_eq, own]
    exact isOf.mem_columnNames_iff numbered dated
  have checked : ∀ column, IsNamed columns intent column →
      isIdentifier column.name = true := by
    intro column named
    exact (Bool.and_eq_true_iff.mp (isUsable_of_layOut laidOut named)).1
  refine ⟨names, ?_, checked, ?_, ?_⟩
  · intro name member
    rw [Generated.sql, String.toList_ofList]
    exact Statement.columnName_infix_text member
  · intro plain
    constructor
    · intro column named
      rw [← isPlainIdentifier_iff (checked column named)]
      exact plain _ ((names _).mpr ⟨column, .inl named, rfl⟩)
    · intro column found
      exact plain _ ((names _).mpr ⟨column, .inr found, rfl⟩)
  · rintro ⟨unbroken, plain⟩ name member
    obtain ⟨column, named | found, rfl⟩ := (names name).mp member
    · exact (isPlainIdentifier_iff (checked column named)).mpr (unbroken column named)
    · exact plain column found

theorem mem_columnNames_iff_of_buildWith_sample :
    ∃ generated, buildWith (fun _ => true) sampleIntent.toDraft sampleColumns = .ok generated ∧
      "station_name" ∈ generated.statement.columnNames ∧
      "station_name".toList <:+: generated.sql.toList := by
  obtain ⟨generated, built⟩ : ∃ generated,
      buildWith (fun _ => true) sampleIntent.toDraft sampleColumns = .ok generated :=
    exists_eq_ok_of_isOk (by decide +kernel)
  obtain ⟨names, written, _⟩ := mem_columnNames_iff_of_buildWith built
  have named : IsNamed sampleColumns sampleIntent (sampleColumns[3]) :=
    .filter (List.mem_cons_self ..) (by decide)
  have member : "station_name" ∈ generated.statement.columnNames :=
    (names _).mpr ⟨_, .inl named, rfl⟩
  exact ⟨generated, built, member, written _ member⟩

/-- A column of the stations whose name is no identifier. -/
def hyphenColumn : Column :=
  { table := "stations", name := "station-name", dataType := some "varchar", nullable := false }

/-- A ranking of the groups that some columns make. -/
def rankingIntent (groupBy : List String) : Intent :=
  { aggregation := .max, groupBy }

/-- The statement that ranks the stations by the column that is found for them. -/
def hyphenStatement : Statement :=
  { outputs :=
      [{ expression := .column (.ofColumn hyphenColumn), label := some stationLabel },
        { expression := .countAll, label := some departuresLabel }]
    joins := [.stations]
    conditions := []
    groupBy := ["station-name"]
    topOnly := true }

/-- A column that is refused when it is named for a group is written when it is found. -/
theorem buildWith_hyphen :
    buildWith Grammar.accepts (rankingIntent ["station-name"]).toDraft [hyphenColumn] =
        .error (.refused (.unsupportedIdentifier .groupBy "'station-name'")) ∧
      ∃ generated, buildWith Grammar.accepts (rankingIntent []).toDraft [hyphenColumn] =
          .ok generated ∧
        generated.sql = "SELECT s.station-name AS station_name, COUNT(*) AS departure_count " ++
          "FROM trips t JOIN stations s ON t.start_station_id = s.station_id " ++
          "GROUP BY station-name ORDER BY departure_count DESC LIMIT 1" ∧
        "station-name" ∈ generated.statement.columnNames ∧
        isPlainIdentifier "station-name".toList = false := by
  have computed : (buildWith Grammar.accepts (rankingIntent []).toDraft [hyphenColumn]).map
      Generated.statement = .ok hyphenStatement := by decide +kernel
  obtain ⟨generated, built, own⟩ := map_eq_ok_iff.mp computed
  refine ⟨by rfl, generated, built, ?_, ?_, by decide⟩
  · rw [Generated.sql, own]
    decide +kernel
  · rw [own]
    decide

end RideQuery.Query
