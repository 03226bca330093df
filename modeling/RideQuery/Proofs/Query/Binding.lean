import RideQuery.Proofs.Query.Layout

/-!
# Bound statements

What binding makes of a checked intent: a statement whose conditions are those of the
filters, numbered from 1, with the conditions of the dates behind them.  If the names of
the catalog are plain identifiers, so is every part of the statement.
-/

namespace RideQuery.Query

open RideQuery.Text RideQuery.Number RideQuery.Schema RideQuery.Sql

/-! ## Plain names -/

/-- Columns that have plain identifiers for names, and so have their tables. -/
def HasPlainNames (columns : List Column) : Prop :=
  ∀ column ∈ columns,
    isPlainIdentifier column.table.toList = true ∧ isPlainIdentifier column.name.toList = true

instance (columns : List Column) : Decidable (HasPlainNames columns) :=
  inferInstanceAs (Decidable (∀ column ∈ columns, _))

/-- A small catalog with every column that a query can need. -/
def sampleColumns : List Column :=
  [{ table := "trips", name := "started_at", dataType := some "timestamp", nullable := false },
    { table := "trips", name := "ended_at", dataType := some "timestamp", nullable := true },
    { table := "trips", name := "distance_km", dataType := some "numeric", nullable := true },
    { table := "stations", name := "station_name", dataType := some "varchar",
      nullable := false }]

theorem hasPlainNames_sampleColumns : HasPlainNames sampleColumns := by
  decide

variable {columns : List Column}

theorem solid_aliasOf (table : String) : Solid (aliasOf table).toList := by
  rw [aliasOf]
  split
  · rename_i dimension _
    cases dimension
    all_goals exact solid_of_isPlainIdentifier (by decide)
  · exact solid_of_isPlainIdentifier (by decide)

theorem HasPlainNames.ofColumn {column : Column} (plain : HasPlainNames columns)
    (member : column ∈ columns) : (Reference.ofColumn column).IsPlain :=
  ⟨solid_aliasOf column.table, solid_of_isPlainIdentifier (plain column member).2⟩

theorem HasPlainNames.fact {column : Column} (plain : HasPlainNames columns)
    (member : column ∈ columns) : (Reference.fact column.name).IsPlain :=
  ⟨solid_of_isPlainIdentifier (by decide : isPlainIdentifier factAlias.toList = true),
    solid_of_isPlainIdentifier (plain column member).2⟩

theorem mem_of_factColumn {names types : List String} {column : Column}
    (found : factColumn names types columns = some column) : column ∈ columns :=
  List.mem_of_find?_eq_some found

theorem mem_of_stationNameColumn {column : Column}
    (found : stationNameColumn columns = some column) : column ∈ columns := by
  rw [stationNameColumn] at found
  split at found
  · obtain rfl := Option.some.inj found
    exact List.mem_of_find?_eq_some ‹_›
  · exact List.mem_of_find?_eq_some found

theorem HasPlainNames.startReference {reference : Reference} (plain : HasPlainNames columns)
    (required : Query.startReference columns = .ok reference) : reference.IsPlain := by
  obtain ⟨start, found, rfl⟩ := requireColumn_eq_ok_iff.mp required
  exact plain.fact (mem_of_factColumn found)

/-! ## SELECT list and joins -/

theorem mem_of_groupColumns {aggregation : Aggregation} {names : List String}
    {groups : List Column} (grouped : groupColumns columns aggregation names = .ok groups) :
    ∀ column ∈ groups, column ∈ columns := by
  intro column member
  rcases groupColumns_cases grouped with ⟨named, _⟩ | ⟨_, station, found, rfl⟩
  · obtain ⟨name, _, found, _⟩ := exists_of_mem_forall₂ named column member
    exact findColumn_mem found
  · obtain rfl := List.mem_singleton.mp member
    exact mem_of_stationNameColumn found

theorem HasPlainNames.groupOutput {column : Column} (plain : HasPlainNames columns)
    (member : column ∈ columns) (aggregation : Aggregation) :
    (Query.groupOutput aggregation column).IsPlain := by
  constructor
  · exact plain.ofColumn member
  · intro label labelled
    rw [Query.groupOutput] at labelled
    split at labelled
    · obtain rfl := Option.some.inj labelled
      exact solid_of_isPlainIdentifier (by decide)
    · contradiction

theorem HasPlainNames.aggregateOutput {aggregation : Aggregation} {output : Output}
    (plain : HasPlainNames columns)
    (made : Query.aggregateOutput columns aggregation = .ok output) : output.IsPlain := by
  have labelled : ∀ label : String, isPlainIdentifier label.toList = true →
      ∀ given ∈ some label, Solid given.toList := by
    rintro label identifier _ ⟨⟩
    exact solid_of_isPlainIdentifier identifier
  cases isAggregate_of_aggregateOutput made with
  | average first last =>
      exact ⟨⟨plain.fact (mem_of_factColumn last), plain.fact (mem_of_factColumn first)⟩,
        labelled _ (by decide)⟩
  | distance found => exact ⟨plain.fact (mem_of_factColumn found), labelled _ (by decide)⟩
  | _ => exact ⟨trivial, labelled _ (by decide)⟩

theorem HasPlainNames.joinOf {dimension : Dimension} {join : Join}
    (plain : HasPlainNames columns) (made : Query.joinOf columns dimension = .ok join) :
    join.IsPlain := by
  cases dimension with
  | weather =>
      obtain ⟨start, required, done⟩ := bind_eq_ok_iff.mp made
      obtain rfl := pure_eq_ok_iff.mp done
      exact plain.startReference required
  | _ =>
      obtain rfl := pure_eq_ok_iff.mp made
      trivial

/-! ## Conditions -/

theorem IsInlined.isPlain {column : Column} {condition : Condition}
    (inlined : IsInlined column condition) (target : (Reference.ofColumn column).IsPlain) :
    condition.IsPlain := by
  unfold IsInlined at inlined
  split at inlined
  · obtain ⟨rfl, number⟩ := inlined
    exact ⟨target, solid_of_numberText number⟩
  · obtain ⟨rfl, numbers⟩ := inlined
    exact ⟨target, fun text member => solid_of_numberText (numbers text member)⟩
  · contradiction

theorem Numbered.isPlain {number : Nat} {filters : List Filter} {conditions : List Condition}
    {parameters : List Value} (plain : HasPlainNames columns)
    (numbered : Numbered columns number filters conditions parameters) :
    ∀ condition ∈ conditions, condition.IsPlain := by
  induction numbered with
  | nil => nofun
  | @passed number filter _ column _ _ _ found _ inductionHypothesis =>
      have own : (conjunct filter column number).IsPlain := by
        have target := plain.ofColumn (findColumn_mem found)
        rw [conjunct]
        split <;> exact target
      exact List.forall_mem_cons.mpr ⟨own, inductionHypothesis⟩
  | inlined _ found literal _ inductionHypothesis =>
      have own := literal.isPlain (plain.ofColumn (findColumn_mem found))
      exact List.forall_mem_cons.mpr ⟨own, inductionHypothesis⟩

/-! ## Dates -/

theorem mem_dropLineEnd {c : Char} {text : List Char} (member : c ∈ text) :
    c ∈ dropLineEnd text ∨ c = '\n' := by
  rw [dropLineEnd]
  split
  · have last : text.getLast? = some '\n' := beq_iff_eq.mp ‹_›
    rw [← List.dropLast_append_getLast? '\n' last] at member
    simpa using member
  · exact .inl member

/-- A text that is shaped like a date holds no quote. -/
theorem unquoted_of_isDateShaped {text : String} (shaped : isDateShaped text = true) :
    singleQuote ∉ text.toList := by
  intro member
  rw [isDateShaped] at shaped
  split at shaped
  · rename_i y₁ y₂ y₃ y₄ m₁ m₂ d₁ d₂ written
    have digits := List.all_eq_true.mp shaped
    rcases mem_dropLineEnd member with inside | breaks
    · rw [written] at inside
      have digit : singleQuote ∈ [y₁, y₂, y₃, y₄, m₁, m₂, d₁, d₂] := by
        have notHyphen : singleQuote ≠ '-' := by decide
        simp only [List.mem_cons, List.not_mem_nil, or_false] at inside ⊢
        tauto
      exact absurd (digits singleQuote digit) (by decide)
    · exact absurd breaks (by decide)
  · contradiction

theorem checkDate_eq_ok_iff {text : String} :
    checkDate text = .ok () ↔ isDateShaped text = true := by
  rw [checkDate]
  by_cases shaped : isDateShaped text = true
  · rw [if_pos shaped]
    exact iff_of_true rfl shaped
  · rw [if_neg shaped]
    exact iff_of_false refuse_ne_ok shaped

/-- Conditions on the start of a trip: between two dates, in a month or in a year. -/
inductive OnStart (columns : List Column) : Condition → Prop
  | between {start : Reference} {first last : String}
      (required : startReference columns = .ok start)
      (first_shaped : isDateShaped first = true) (last_shaped : isDateShaped last = true) :
      OnStart columns (.between start first last)
  | inMonth {start : Reference} (required : startReference columns = .ok start) (month : Nat) :
      OnStart columns (.inMonth start month)
  | inYear {start : Reference} (required : startReference columns = .ok start) (year : Nat) :
      OnStart columns (.inYear start year)

namespace OnStart

variable {condition : Condition}

theorem numbers_eq (onStart : OnStart columns condition) : condition.numbers = [] := by
  cases onStart <;> rfl

theorem isPlain (onStart : OnStart columns condition) (plain : HasPlainNames columns) :
    condition.IsPlain := by
  cases onStart with
  | between required first last =>
      exact ⟨plain.startReference required, unquoted_of_isDateShaped first,
        unquoted_of_isDateShaped last⟩
  | inMonth required month => exact plain.startReference required
  | inYear required year => exact plain.startReference required

end OnStart

/-- A condition that is on the start for every number is so for the one that is read. -/
theorem onStart_of_read {read : Building Nat} {condition : Nat → Condition}
    {conditions : List Condition} (onStart : ∀ number, OnStart columns (condition number))
    (made : (do pure [condition (← read)]) = Except.ok conditions) :
    ∀ condition ∈ conditions, OnStart columns condition := by
  obtain ⟨number, _, done⟩ := bind_eq_ok_iff.mp made
  obtain rfl := pure_eq_ok_iff.mp done
  intro condition member
  obtain rfl := List.mem_singleton.mp member
  exact onStart number

theorem onStart_of_monthCondition {start : Reference} {month : Option String}
    {conditions : List Condition} (required : startReference columns = .ok start)
    (made : monthCondition start month = .ok conditions) :
    ∀ condition ∈ conditions, OnStart columns condition := by
  cases month with
  | none =>
      obtain rfl := pure_eq_ok_iff.mp made
      nofun
  | some text => exact onStart_of_read (.inMonth required) made

theorem onStart_of_yearCondition {start : Reference} {year : Option String}
    {conditions : List Condition} (required : startReference columns = .ok start)
    (made : yearCondition start year = .ok conditions) :
    ∀ condition ∈ conditions, OnStart columns condition := by
  cases year with
  | none =>
      obtain rfl := pure_eq_ok_iff.mp made
      nofun
  | some text => exact onStart_of_read (.inYear required) made

theorem onStart_of_dateConditions {range : DateRange} {dates : List Condition}
    (made : dateConditions columns range = .ok dates) :
    ∀ condition ∈ dates, OnStart columns condition := by
  rw [dateConditions] at made
  split at made
  · rename_i first last _
    obtain ⟨_, firstChecked, rest⟩ := bind_eq_ok_iff.mp made
    obtain ⟨_, lastChecked, rest⟩ := bind_eq_ok_iff.mp rest
    obtain ⟨start, required, done⟩ := bind_eq_ok_iff.mp rest
    obtain rfl := pure_eq_ok_iff.mp done
    intro condition member
    obtain rfl := List.mem_singleton.mp member
    exact .between required (checkDate_eq_ok_iff.mp firstChecked)
      (checkDate_eq_ok_iff.mp lastChecked)
  · dsimp only at made
    split at made
    · obtain rfl := pure_eq_ok_iff.mp made
      nofun
    · obtain ⟨start, required, rest⟩ := bind_eq_ok_iff.mp made
      obtain ⟨inMonth, monthMade, rest⟩ := bind_eq_ok_iff.mp rest
      obtain ⟨inYear, yearMade, done⟩ := bind_eq_ok_iff.mp rest
      obtain rfl := pure_eq_ok_iff.mp done
      exact List.forall_mem_append.mpr
        ⟨onStart_of_monthCondition required monthMade,
          onStart_of_yearCondition required yearMade⟩

theorem onStart_of_optionalDateConditions {range : Option DateRange} {dates : List Condition}
    (made : optionalDateConditions columns range = .ok dates) :
    ∀ condition ∈ dates, OnStart columns condition := by
  cases range with
  | none =>
      obtain rfl := pure_eq_ok_iff.mp made
      nofun
  | some range => exact onStart_of_dateConditions made

/-! ## Statements -/

section Statements

variable {intent : Intent} {layout : Layout} {conditions dates : List Condition}
  {parameters : List Value}

theorem Layout.Of.isPlain (isOf : layout.Of columns intent)
    (numbered : Numbered columns 1 intent.filters conditions parameters)
    (dated : optionalDateConditions columns intent.dateRange = .ok dates)
    (plain : HasPlainNames columns) :
    (layout.statement intent.aggregation (conditions ++ dates)).IsPlain where
  outputs := by
    intro output member
    rcases List.mem_append.mp member with member | member
    · obtain ⟨column, inside, rfl⟩ := List.mem_map.mp member
      exact plain.groupOutput (mem_of_groupColumns isOf.groups column inside) _
    · obtain rfl := List.mem_singleton.mp member
      exact plain.aggregateOutput isOf.aggregate
  joins join member := plain.joinOf (isOf.joins join member)
  conditions :=
    List.forall_mem_append.mpr ⟨numbered.isPlain plain, fun condition member =>
      (onStart_of_optionalDateConditions dated condition member).isPlain plain⟩
  groupBy name member := by
    obtain ⟨column, inside, rfl⟩ := List.mem_map.mp member
    have fromCatalog := mem_of_groupColumns isOf.groups column inside
    exact solid_of_isPlainIdentifier (plain column fromCatalog).2

/-- The placeholders of a statement are numbered from 1, one for each parameter. -/
theorem numbers_statement (layout : Layout)
    (numbered : Numbered columns 1 intent.filters conditions parameters)
    (dated : optionalDateConditions columns intent.dateRange = .ok dates) :
    (layout.statement intent.aggregation (conditions ++ dates)).numbers =
      List.range' 1 parameters.length := by
  have none : dates.flatMap Condition.numbers = [] := by
    rw [List.flatMap_eq_nil_iff]
    exact fun condition member =>
      (onStart_of_optionalDateConditions dated condition member).numbers_eq
  rw [Statement.numbers, Layout.statement, List.flatMap_append, numbered.numbers_eq, none,
    List.append_nil]

end Statements

end RideQuery.Query
