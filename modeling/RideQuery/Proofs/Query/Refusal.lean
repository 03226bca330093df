import RideQuery.Proofs.Query.Dates
import RideQuery.Proofs.Value.Display
import RideQuery.Surroundings.Sql.Grammar

/-!
# Intents that are not refused

A malformed intent is refused, except that building can also stop at a number: at a text
that looks like digits and is no numeral, or at a numeral with too many digits.  A number
fault is an intent at which it does.  Filters are gone through in order, then come the
dates, the placeholders of the finished text and the explanation; so a fault in one of
these is one only if nothing before it has been refused.
-/

namespace RideQuery

open RideQuery.Text RideQuery.Number RideQuery.Schema RideQuery.Sql

/-! ## Filters that can be expressed -/

/-- Values that are numbers and not too long to be written out. -/
def FilterValue.IsWritable : FilterValue → Prop
  | .int n => digitCount n.natAbs ≤ maxDigits
  | .float _ => True
  | _ => False

/-- Filters that there is a condition for. -/
def Filter.IsExpressible (filter : Filter) : Prop :=
  if filter.operator = .isIn then
    ∃ members, filter.value = .texts members ∧ (filter.parameterised = true ∨ members = [])
  else
    filter.parameterised = true ∨ filter.value.IsWritable

/-- Filters that write out an integer with too many digits. -/
def Filter.IsOverlong (filter : Filter) : Prop :=
  filter.operator ≠ .isIn ∧ filter.parameterised = false ∧ ¬filter.value.IsDisplayable

namespace Query

variable {α β : Type} {columns : List Column} {intent : Intent}

/-! ## Stopping at a number -/

/-- Steps of building that stop at a number. -/
def StopsAtNumber (step : Building α) : Prop :=
  ∃ error, step = .error (.number error)

@[simp]
theorem not_stopsAtNumber_ok (value : α) : ¬StopsAtNumber (.ok value) :=
  nofun

@[simp]
theorem not_stopsAtNumber_pure (value : α) : ¬StopsAtNumber (pure value) :=
  nofun

@[simp]
theorem not_stopsAtNumber_refuse (error : BuildError) :
    ¬StopsAtNumber (refuse error : Building α) :=
  nofun

@[simp]
theorem not_stopsAtNumber_require {value : Option α} {error : BuildError} :
    ¬StopsAtNumber (require value error) := by
  cases value with
  | none => exact not_stopsAtNumber_refuse error
  | some value => exact not_stopsAtNumber_ok value

theorem stopsAtNumber_numeric_iff {step : Except NumberError α} :
    StopsAtNumber (numeric step) ↔ ¬∃ value, step = .ok value := by
  cases step with
  | error failure => exact iff_of_true ⟨failure, rfl⟩ nofun
  | ok value => exact iff_of_false nofun (not_not_intro ⟨value, rfl⟩)

theorem stopsAtNumber_bind_iff {step : Building α} {next : α → Building β} :
    StopsAtNumber (step >>= next) ↔
      StopsAtNumber step ∨ ∃ value, step = .ok value ∧ StopsAtNumber (next value) := by
  cases step <;> simp [StopsAtNumber]

theorem not_stopsAtNumber_bind {step : Building α} {next : α → Building β}
    (first : ¬StopsAtNumber step) (nexts : ∀ value, ¬StopsAtNumber (next value)) :
    ¬StopsAtNumber (step >>= next) := by
  rw [stopsAtNumber_bind_iff]
  rintro (stops | ⟨value, _, stops⟩)
  · exact first stops
  · exact nexts value stops

theorem not_stopsAtNumber_mapM {step : α → Building β} {values : List α}
    (steps : ∀ value ∈ values, ¬StopsAtNumber (step value)) :
    ¬StopsAtNumber (values.mapM step) := by
  induction values with
  | nil => exact not_stopsAtNumber_pure []
  | cons value values inductionHypothesis =>
      obtain ⟨head, tail⟩ := List.forall_mem_cons.mp steps
      rw [List.mapM_cons]
      apply not_stopsAtNumber_bind head
      intro result
      exact not_stopsAtNumber_bind (inductionHypothesis tail) fun _ => not_stopsAtNumber_pure _

/-! ## Layouts -/

/-- The names of an intent are texts, which can always be shown. -/
theorem not_stopsAtNumber_resolve {role : Role} {name : String} :
    ¬StopsAtNumber (resolve columns role (.text name)) := by
  rw [resolve]
  split
  · exact not_stopsAtNumber_refuse (.unknownColumn role (quote name))
  · split
    · exact not_stopsAtNumber_ok _
    · exact not_stopsAtNumber_refuse (.unsupportedIdentifier role (quote name))

theorem not_stopsAtNumber_requireColumn {column : Option Column} {needed : Needed} :
    ¬StopsAtNumber (requireColumn column needed) :=
  not_stopsAtNumber_bind not_stopsAtNumber_require fun _ => not_stopsAtNumber_pure _

theorem not_stopsAtNumber_groupColumns {aggregation : Aggregation} {names : List String} :
    ¬StopsAtNumber (groupColumns columns aggregation names) := by
  apply not_stopsAtNumber_bind
  · exact not_stopsAtNumber_mapM fun _ _ => not_stopsAtNumber_resolve
  · intro resolved
    split
    · exact not_stopsAtNumber_bind not_stopsAtNumber_require fun _ =>
        not_stopsAtNumber_pure _
    · exact not_stopsAtNumber_pure _

theorem not_stopsAtNumber_filterColumns {filters : List Filter} :
    ¬StopsAtNumber (filterColumns columns (filters.map Filter.toDraft)) := by
  apply not_stopsAtNumber_mapM
  intro draft member
  obtain ⟨filter, _, rfl⟩ := List.mem_map.mp member
  exact not_stopsAtNumber_bind not_stopsAtNumber_resolve fun _ => not_stopsAtNumber_pure _

theorem not_stopsAtNumber_aggregateOutput {aggregation : Aggregation} :
    ¬StopsAtNumber (aggregateOutput columns aggregation) := by
  cases aggregation with
  | avg =>
      apply not_stopsAtNumber_bind not_stopsAtNumber_requireColumn
      intro first
      exact not_stopsAtNumber_bind not_stopsAtNumber_requireColumn fun _ =>
        not_stopsAtNumber_pure _
  | sum =>
      exact not_stopsAtNumber_bind not_stopsAtNumber_requireColumn fun _ =>
        not_stopsAtNumber_pure _
  | _ => exact not_stopsAtNumber_pure _

theorem not_stopsAtNumber_joinOf {dimension : Dimension} :
    ¬StopsAtNumber (joinOf columns dimension) := by
  cases dimension with
  | weather =>
      exact not_stopsAtNumber_bind not_stopsAtNumber_requireColumn fun _ =>
        not_stopsAtNumber_pure _
  | _ => exact not_stopsAtNumber_pure _

/-- There is no number in what is settled before the conditions. -/
theorem not_stopsAtNumber_layOut (columns : List Column) (intent : Intent) :
    ¬StopsAtNumber (layOut columns intent) := by
  apply not_stopsAtNumber_bind not_stopsAtNumber_groupColumns
  intro groups
  apply not_stopsAtNumber_bind not_stopsAtNumber_filterColumns
  intro filters
  apply not_stopsAtNumber_bind not_stopsAtNumber_aggregateOutput
  intro aggregate
  apply not_stopsAtNumber_bind
  · exact not_stopsAtNumber_mapM fun _ _ => not_stopsAtNumber_joinOf
  · exact fun joins => not_stopsAtNumber_pure _

/-! ## Filters -/

theorem stopsAtNumber_numberLiteral_iff {value : FilterValue} :
    StopsAtNumber (numberLiteral value.toValue) ↔ ¬value.IsDisplayable := by
  cases value with
  | int n =>
      rw [← FilterValue.exists_plain_iff]
      change StopsAtNumber (numeric (writeInteger n) >>= fun text => pure text.toList) ↔
        ¬∃ text, (Value.int n).inspect = .ok text
      rw [stopsAtNumber_bind_iff, stopsAtNumber_numeric_iff, Value.inspect_int]
      simp only [not_stopsAtNumber_pure, and_false, exists_false, or_false]
  | float x => exact iff_of_false (not_stopsAtNumber_pure _) (not_not_intro trivial)
  | text s => exact iff_of_false (not_stopsAtNumber_refuse _) (not_not_intro trivial)
  | texts members =>
      refine iff_of_false ?_ (not_not_intro trivial)
      apply not_stopsAtNumber_bind
      · rw [stopsAtNumber_numeric_iff, not_not]
        have displayable : (FilterValue.texts members).IsDisplayable := trivial
        exact displayable.exists_plain
      · exact fun shown => not_stopsAtNumber_refuse _

theorem exists_numberLiteral_iff {value : FilterValue} :
    (∃ literal, numberLiteral value.toValue = .ok literal) ↔ value.IsWritable := by
  cases value with
  | int n =>
      change (∃ literal, (numeric (writeInteger n) >>= fun text => pure text.toList) =
        .ok literal) ↔ digitCount n.natAbs ≤ maxDigits
      rw [exists_bind_pure_eq_ok_iff, writeInteger]
      split
      · exact iff_of_true ⟨_, rfl⟩ ‹_›
      · exact iff_of_false (by simp) ‹_›
  | float x => exact iff_of_true ⟨_, rfl⟩ trivial
  | text s => exact iff_of_false (not_exists.mpr fun _ => bind_refuse_ne_ok) id
  | texts members => exact iff_of_false (not_exists.mpr fun _ => bind_refuse_ne_ok) id

theorem not_stopsAtNumber_numberLiteral_text {text : String} :
    ¬StopsAtNumber (numberLiteral (.text text)) := by
  rw [show Value.text text = (FilterValue.text text).toValue from rfl,
    stopsAtNumber_numberLiteral_iff]
  exact not_not_intro trivial

/-- A membership in a list is refused if its members are to be written out. -/
theorem exists_mapM_numberLiteral_iff {members : List String} :
    (∃ literals, (members.map Value.text).mapM numberLiteral = .ok literals) ↔ members = [] := by
  cases members with
  | nil => exact iff_of_true ⟨[], rfl⟩ rfl
  | cons member members =>
      refine iff_of_false ?_ nofun
      rintro ⟨literals, made⟩
      cases mapM_eq_ok_iff.mp made with
      | cons first _ => exact bind_refuse_ne_ok first

theorem texts_of_members? {filter : Filter} {items : List Value}
    (listed : members? filter.argument = some items) :
    ∃ members, filter.value = .texts members ∧ members.map .text = items := by
  unfold Filter.argument at listed
  cases value : filter.value with
  | texts members =>
      rw [value] at listed
      exact ⟨members, rfl, Option.some.inj listed⟩
  | _ => simp [value, FilterValue.toValue, members?] at listed

theorem stopsAtNumber_filterCondition_iff {filter : Filter} {number : Nat} {column : Column} :
    StopsAtNumber (filterCondition number filter.toDraft column) ↔ filter.IsOverlong := by
  by_cases operator : filter.operator = .isIn
  · refine iff_of_false ?_ fun overlong => overlong.1 operator
    rw [filterCondition_isIn operator, stopsAtNumber_bind_iff]
    rintro (stops | ⟨items, listed, stops⟩)
    · exact not_stopsAtNumber_require stops
    · split at stops
      · exact not_stopsAtNumber_pure _ stops
      · obtain ⟨members, _, rfl⟩ := texts_of_members? (require_eq_ok_iff.mp listed)
        revert stops
        apply not_stopsAtNumber_bind
        · apply not_stopsAtNumber_mapM
          intro item member
          obtain ⟨text, _, rfl⟩ := List.mem_map.mp member
          exact not_stopsAtNumber_numberLiteral_text
        · exact fun _ => not_stopsAtNumber_pure _
  · rw [filterCondition_of_ne_isIn operator]
    by_cases parameterised : filter.parameterised = true
    · rw [if_pos parameterised]
      refine iff_of_false (not_stopsAtNumber_pure _) fun overlong => ?_
      exact absurd overlong.2.1 (by simp [parameterised])
    · rw [if_neg parameterised, stopsAtNumber_bind_iff, Filter.argument,
        stopsAtNumber_numberLiteral_iff]
      simp only [not_stopsAtNumber_pure, and_false, exists_false, or_false]
      rw [Filter.IsOverlong, Bool.eq_false_iff]
      exact ⟨fun overlong => ⟨operator, parameterised, overlong⟩, fun overlong => overlong.2.2⟩

theorem exists_filterCondition_iff {filter : Filter} {number : Nat} {column : Column} :
    (∃ result, filterCondition number filter.toDraft column = .ok result) ↔
      filter.IsExpressible := by
  unfold Filter.IsExpressible
  by_cases operator : filter.operator = .isIn
  · rw [filterCondition_isIn operator, if_pos operator]
    constructor
    · rintro ⟨result, made⟩
      obtain ⟨items, listed, rest⟩ := bind_eq_ok_iff.mp made
      obtain ⟨members, value, rfl⟩ := texts_of_members? (require_eq_ok_iff.mp listed)
      refine ⟨members, value, or_iff_not_imp_left.mpr fun inlined => ?_⟩
      rw [if_neg inlined] at rest
      obtain ⟨literals, written, _⟩ := bind_eq_ok_iff.mp rest
      exact exists_mapM_numberLiteral_iff.mp ⟨literals, written⟩
    · rintro ⟨members, value, fine⟩
      have listed : members? filter.argument = some (members.map .text) := by
        rw [Filter.argument, value]
        rfl
      rw [require_eq_ok_iff.mpr listed, ok_bind]
      split
      · exact ⟨_, rfl⟩
      · obtain rfl := fine.resolve_left ‹_›
        exact ⟨_, rfl⟩
  · rw [filterCondition_of_ne_isIn operator, if_neg operator]
    by_cases parameterised : filter.parameterised = true
    · rw [if_pos parameterised]
      exact iff_of_true ⟨_, rfl⟩ (.inl parameterised)
    · rw [if_neg parameterised, or_iff_right parameterised, exists_bind_pure_eq_ok_iff]
      exact exists_numberLiteral_iff

/-- Lists whose first member to lack one property has another. -/
def FirstFault (fine faulty : α → Prop) (values : List α) : Prop :=
  ∃ before value after, values = before ++ value :: after ∧
    (∀ other ∈ before, fine other) ∧ faulty value

theorem firstFault_cons_iff {fine faulty : α → Prop} {value : α} {values : List α} :
    FirstFault fine faulty (value :: values) ↔
      faulty value ∨ fine value ∧ FirstFault fine faulty values := by
  constructor
  · rintro ⟨before, found, after, split, fineBefore, fault⟩
    rcases List.cons_eq_append_iff.mp split with ⟨rfl, here⟩ | ⟨before, rfl, rest⟩
    · obtain ⟨rfl, _⟩ := List.cons.inj here
      exact .inl fault
    · obtain ⟨first, others⟩ := List.forall_mem_cons.mp fineBefore
      exact .inr ⟨first, before, found, after, rest, others, fault⟩
  · rintro (fault | ⟨first, before, found, after, rfl, others, fault⟩)
    · exact ⟨[], value, values, rfl, nofun, fault⟩
    · exact ⟨value :: before, found, after, rfl, List.forall_mem_cons.mpr ⟨first, others⟩, fault⟩

/-- Filters have conditions exactly if each of them can be expressed. -/
theorem exists_filterConditions_iff {filters : List Filter}
    {resolved : List (DraftFilter × Column)}
    (resolves : List.Forall₂ (Resolves columns) filters resolved) {number : Nat} :
    (∃ result, filterConditions number resolved = .ok result) ↔
      ∀ filter ∈ filters, filter.IsExpressible := by
  induction resolves generalizing number with
  | nil => exact iff_of_true ⟨([], []), rfl⟩ nofun
  | @cons filter pair filters resolved resolve _ inductionHypothesis =>
      obtain ⟨draft, column⟩ := pair
      obtain ⟨rfl, _⟩ := resolve
      rw [List.forall_mem_cons]
      constructor
      · rintro ⟨result, made⟩
        obtain ⟨⟨condition, parameter⟩, one, rest⟩ := bind_eq_ok_iff.mp made
        obtain ⟨others, made, _⟩ := bind_eq_ok_iff.mp rest
        exact ⟨exists_filterCondition_iff.mp ⟨_, one⟩, inductionHypothesis.mp ⟨others, made⟩⟩
      · rintro ⟨first, others⟩
        obtain ⟨⟨condition, parameter⟩, one⟩ := exists_filterCondition_iff.mpr first
        obtain ⟨rest, made⟩ := inductionHypothesis.mpr others
        unfold filterConditions
        rw [one, ok_bind]
        dsimp only
        rw [made]
        exact ⟨_, rfl⟩

/-- Going through filters stops at the first that cannot be expressed, and so at its number. -/
theorem stopsAtNumber_filterConditions_iff {filters : List Filter}
    {resolved : List (DraftFilter × Column)}
    (resolves : List.Forall₂ (Resolves columns) filters resolved) {number : Nat} :
    StopsAtNumber (filterConditions number resolved) ↔
      FirstFault Filter.IsExpressible Filter.IsOverlong filters := by
  induction resolves generalizing number with
  | nil => exact iff_of_false (not_stopsAtNumber_pure _) (by simp [FirstFault])
  | @cons filter pair filters resolved resolve _ inductionHypothesis =>
      obtain ⟨draft, column⟩ := pair
      obtain ⟨rfl, _⟩ := resolve
      unfold filterConditions
      rw [firstFault_cons_iff, stopsAtNumber_bind_iff, stopsAtNumber_filterCondition_iff]
      -- The other filters are only reached if there is a condition for the first.
      apply or_congr_right
      constructor
      · rintro ⟨⟨condition, parameter⟩, one, stops⟩
        rcases stopsAtNumber_bind_iff.mp stops with stops | ⟨others, _, stops⟩
        · exact ⟨exists_filterCondition_iff.mp ⟨_, one⟩, inductionHypothesis.mp stops⟩
        · exact absurd stops (not_stopsAtNumber_pure _)
      · rintro ⟨first, fault⟩
        obtain ⟨⟨condition, parameter⟩, one⟩ := exists_filterCondition_iff.mpr first
        exact ⟨_, one, stopsAtNumber_bind_iff.mpr (.inl (inductionHypothesis.mpr fault))⟩

/-! ## Dates -/

/-- Texts that look like digits and cannot be read as a numeral. -/
def IsDeceptive (text : String) : Prop :=
  allDigitLike text.toList = true ∧ ¬IsReadable text.toList

/-- Dates without bounds whose month, or else whose year, is deceptive. -/
def AreDeceptive (columns : List Column) (range : DateRange) : Prop :=
  range.bounds? = none ∧ (∃ start, startReference columns = .ok start) ∧
    ((∃ month ∈ nonempty? range.specificMonth, IsDeceptive month) ∨
      (∀ month ∈ nonempty? range.specificMonth, ∃ number, readMonth month = .ok number) ∧
        ∃ year ∈ nonempty? range.specificYear, year.length = 4 ∧ IsDeceptive year)

theorem stopsAtNumber_digitsNumber_iff {text : String} {error : BuildError} :
    StopsAtNumber (digitsNumber text error) ↔ IsDeceptive text := by
  rw [digitsNumber, IsDeceptive]
  split
  · rename_i digitLike
    rw [stopsAtNumber_bind_iff, stopsAtNumber_numeric_iff, exists_readInteger_iff digitLike]
    simp [digitLike]
  · rename_i other
    exact iff_of_false (not_stopsAtNumber_refuse _) fun deceptive => other deceptive.1

theorem stopsAtNumber_readMonth_iff {text : String} :
    StopsAtNumber (readMonth text) ↔ IsDeceptive text := by
  rw [readMonth, stopsAtNumber_bind_iff, stopsAtNumber_digitsNumber_iff, or_iff_left]
  rintro ⟨month, _, stops⟩
  split at stops
  · exact not_stopsAtNumber_pure _ stops
  · exact not_stopsAtNumber_refuse _ stops

theorem stopsAtNumber_readYear_iff {text : String} :
    StopsAtNumber (readYear text) ↔ text.length = 4 ∧ IsDeceptive text := by
  rw [readYear]
  split
  · rename_i four
    rw [Bool.and_eq_true, beq_iff_eq] at four
    rw [stopsAtNumber_digitsNumber_iff, and_iff_right four.2]
  · rename_i other
    refine iff_of_false (not_stopsAtNumber_refuse _) ?_
    rintro ⟨four, deceptive, _⟩
    exact other (by simp [four, deceptive])

theorem stopsAtNumber_monthCondition_iff {start : Reference} {month : Option String} :
    StopsAtNumber (monthCondition start month) ↔ ∃ text ∈ month, IsDeceptive text := by
  cases month with
  | none => exact iff_of_false (not_stopsAtNumber_pure _) nofun
  | some text =>
      rw [monthCondition, stopsAtNumber_bind_iff, stopsAtNumber_readMonth_iff]
      simp

theorem stopsAtNumber_yearCondition_iff {start : Reference} {year : Option String} :
    StopsAtNumber (yearCondition start year) ↔
      ∃ text ∈ year, text.length = 4 ∧ IsDeceptive text := by
  cases year with
  | none => exact iff_of_false (not_stopsAtNumber_pure _) nofun
  | some text =>
      rw [yearCondition, stopsAtNumber_bind_iff, stopsAtNumber_readYear_iff]
      simp

theorem not_stopsAtNumber_checkDate {text : String} : ¬StopsAtNumber (checkDate text) := by
  rw [checkDate]
  split
  · exact not_stopsAtNumber_pure _
  · exact not_stopsAtNumber_refuse _

theorem stopsAtNumber_dateConditions_iff {range : DateRange} :
    StopsAtNumber (dateConditions columns range) ↔ AreDeceptive columns range := by
  rw [dateConditions, AreDeceptive]
  cases bounds : range.bounds? with
  | some pair =>
      refine iff_of_false ?_ fun deceptive => absurd deceptive.1 (Option.some_ne_none pair)
      apply not_stopsAtNumber_bind not_stopsAtNumber_checkDate
      intro _
      apply not_stopsAtNumber_bind not_stopsAtNumber_checkDate
      intro _
      exact not_stopsAtNumber_bind not_stopsAtNumber_requireColumn fun _ =>
        not_stopsAtNumber_pure _
  | none =>
      dsimp only
      split
      · rename_i neither
        rw [Bool.and_eq_true, Option.isNone_iff_eq_none, Option.isNone_iff_eq_none] at neither
        rw [neither.1, neither.2]
        exact iff_of_false (not_stopsAtNumber_pure _) (by simp)
      · have required : ¬StopsAtNumber (startReference columns) :=
          not_stopsAtNumber_requireColumn
        simp only [stopsAtNumber_bind_iff, required, false_or, stopsAtNumber_monthCondition_iff,
          stopsAtNumber_yearCondition_iff, not_stopsAtNumber_pure, and_false, exists_false,
          or_false, true_and]
        constructor
        · rintro ⟨start, found, month | ⟨conditions, made, year⟩⟩
          · exact ⟨⟨start, found⟩, .inl month⟩
          · exact ⟨⟨start, found⟩, .inr ⟨exists_monthCondition_iff.mp ⟨conditions, made⟩, year⟩⟩
        · rintro ⟨⟨start, found⟩, month | ⟨read, year⟩⟩
          · exact ⟨start, found, .inl month⟩
          · obtain ⟨conditions, made⟩ := exists_monthCondition_iff.mpr read
            exact ⟨start, found, .inr ⟨conditions, made, year⟩⟩

theorem stopsAtNumber_optionalDateConditions_iff {range : Option DateRange} :
    StopsAtNumber (optionalDateConditions columns range) ↔
      ∃ given ∈ range, AreDeceptive columns given := by
  cases range with
  | none => exact iff_of_false (not_stopsAtNumber_pure _) nofun
  | some range =>
      rw [optionalDateConditions, stopsAtNumber_dateConditions_iff]
      simp

/-! ## Statements -/

theorem stopsAtNumber_complete_iff {layout : Layout} (isOf : layout.Of columns intent) :
    StopsAtNumber (layout.complete columns intent) ↔
      FirstFault Filter.IsExpressible Filter.IsOverlong intent.filters ∨
        (∀ filter ∈ intent.filters, filter.IsExpressible) ∧
          ∃ range ∈ intent.dateRange, AreDeceptive columns range := by
  rw [Layout.complete, stopsAtNumber_bind_iff,
    stopsAtNumber_filterConditions_iff isOf.filters]
  apply or_congr_right
  rw [← exists_filterConditions_iff isOf.filters, ← stopsAtNumber_optionalDateConditions_iff]
  constructor
  · rintro ⟨⟨conditions, parameters⟩, made, stops⟩
    rcases stopsAtNumber_bind_iff.mp stops with stops | ⟨dates, _, stops⟩
    · exact ⟨⟨_, made⟩, stops⟩
    · exact absurd stops (not_stopsAtNumber_pure _)
  · rintro ⟨⟨⟨conditions, parameters⟩, made⟩, stops⟩
    exact ⟨_, made, stopsAtNumber_bind_iff.mpr (.inl stops)⟩

theorem exists_placeholderCount_iff {text : List Char} :
    (∃ count, placeholderCount text = .ok count) ↔
      ∀ digits ∈ placeholderDigits text, digits.length ≤ maxDigits := by
  rw [placeholderCount, exists_bind_pure_eq_ok_iff, placeholders, exists_mapM_eq_ok_iff]
  apply forall₂_congr
  intro digits _
  rw [placeholderNumber]
  split
  · exact iff_of_false nofun (Nat.not_le.mpr ‹_›)
  · exact iff_of_true ⟨_, rfl⟩ (Nat.not_lt.mp ‹_›)

theorem stopsAtNumber_checkText_iff {wellFormed : List Char → Bool} {text : List Char}
    {parameters : List Value} :
    StopsAtNumber (checkText wellFormed text parameters) ↔
      ∃ digits ∈ placeholderDigits text, maxDigits < digits.length := by
  rw [checkText, stopsAtNumber_bind_iff, stopsAtNumber_numeric_iff, or_iff_left]
  · rw [exists_placeholderCount_iff]
    simp only [not_forall, Nat.not_le, exists_prop]
  · rintro ⟨count, _, stops⟩
    split at stops
    · exact not_stopsAtNumber_refuse _ stops
    · split at stops
      · exact not_stopsAtNumber_refuse _ stops
      · exact not_stopsAtNumber_pure _ stops

/-! ## Explanations -/

/-- The value of a filter is shown unless the filter is one for rain. -/
def ShowsValue (columns : List Column) (filter : Filter) : Prop :=
  filterSubject (.known filter.operator) (findColumn columns filter.column) ≠ .rain

theorem exists_describeFilter_iff {filter : Filter} :
    (∃ text, describeFilter columns filter.toDraft = .ok text) ↔
      (ShowsValue columns filter → filter.value.IsDisplayable) := by
  have subject : filterSubject filter.toDraft.operator
      (namedColumn columns filter.toDraft.column) =
      filterSubject (.known filter.operator) (findColumn columns filter.column) := rfl
  rw [describeFilter, subject, ShowsValue, ← FilterValue.exists_plain_iff]
  cases filterSubject (.known filter.operator) (findColumn columns filter.column) with
  | rain => exact iff_of_true ⟨_, rfl⟩ fun other => absurd rfl other
  | other =>
      rw [forall_prop_of_true nofun]
      exact exists_bind_pure_eq_ok_iff
  | _ =>
      rw [forall_prop_of_true nofun]
      exact exists_bind_pure_eq_ok_iff

theorem exists_explain_iff :
    (∃ text, explain intent.toDraft columns = .ok text) ↔
      ∀ filter ∈ intent.filters, ShowsValue columns filter → filter.value.IsDisplayable := by
  have filters : intent.toDraft.filters = intent.filters.map Filter.toDraft := rfl
  rw [explain, exists_bind_pure_eq_ok_iff, exists_mapM_eq_ok_iff, filters, List.forall_mem_map]
  simp only [exists_describeFilter_iff]

/-! ## Queries -/

/-- Intents over a catalog at which building stops at a number. -/
inductive NumberFault (wellFormed : List Char → Bool) (columns : List Column)
    (intent : Intent) : Prop
  /-- An integer with too many digits is to be written out. -/
  | literal {layout : Layout} (laidOut : layOut columns intent = .ok layout)
      (overlong : FirstFault Filter.IsExpressible Filter.IsOverlong intent.filters)
  /-- A month or a year looks like digits and is no numeral. -/
  | date {layout : Layout} (laidOut : layOut columns intent = .ok layout)
      (expressible : ∀ filter ∈ intent.filters, filter.IsExpressible)
      {range : DateRange} (given : range ∈ intent.dateRange)
      (deceptive : AreDeceptive columns range)
  /-- A placeholder in the text of the statement has too many digits. -/
  | placeholder {bound : Bound} (bindStep : bind intent.toDraft columns = .ok bound)
      {digits : List Char} (shown : digits ∈ placeholderDigits bound.statement.text)
      (long : maxDigits < digits.length)
  /-- An integer with too many digits is to be shown in the explanation. -/
  | explanation {bound : Bound} (bindStep : bind intent.toDraft columns = .ok bound)
      (checked : checkText wellFormed bound.statement.text bound.parameters = .ok ())
      {filter : Filter} (member : filter ∈ intent.filters)
      (shown : ShowsValue columns filter) (overlong : ¬filter.value.IsDisplayable)

theorem stopsAtNumber_bind_toDraft_iff :
    StopsAtNumber (bind intent.toDraft columns) ↔
      ∃ layout, layOut columns intent = .ok layout ∧
        (FirstFault Filter.IsExpressible Filter.IsOverlong intent.filters ∨
          (∀ filter ∈ intent.filters, filter.IsExpressible) ∧
            ∃ range ∈ intent.dateRange, AreDeceptive columns range) := by
  rw [bind_toDraft, stopsAtNumber_bind_iff,
    or_iff_right (not_stopsAtNumber_layOut columns intent)]
  apply exists_congr
  intro layout
  apply and_congr_right
  intro laidOut
  exact stopsAtNumber_complete_iff (Layout.of_layOut laidOut)

theorem stopsAtNumber_buildWith_iff {wellFormed : List Char → Bool} :
    StopsAtNumber (buildWith wellFormed intent.toDraft columns) ↔
      NumberFault wellFormed columns intent := by
  have explained : StopsAtNumber (numeric (explain intent.toDraft columns)) ↔
      ∃ filter ∈ intent.filters, ShowsValue columns filter ∧ ¬filter.value.IsDisplayable := by
    rw [stopsAtNumber_numeric_iff, exists_explain_iff]
    simp only [not_forall, exists_prop]
  simp only [buildWith, stopsAtNumber_bind_iff, explained, stopsAtNumber_checkText_iff,
    stopsAtNumber_bind_toDraft_iff, not_stopsAtNumber_pure, and_false, exists_false, or_false]
  constructor
  · rintro (⟨layout, laidOut, overlong | ⟨expressible, range, given, deceptive⟩⟩ |
      ⟨bound, bindStep, ⟨digits, shown, long⟩ | ⟨_, checked, filter, member, shown, overlong⟩⟩)
    · exact .literal laidOut overlong
    · exact .date laidOut expressible given deceptive
    · exact .placeholder bindStep shown long
    · exact .explanation bindStep checked member shown overlong
  · rintro (⟨laidOut, overlong⟩ | ⟨laidOut, expressible, given, deceptive⟩ |
      ⟨bindStep, shown, long⟩ | ⟨bindStep, checked, member, shown, overlong⟩)
    · exact .inl ⟨_, laidOut, .inl overlong⟩
    · exact .inl ⟨_, laidOut, .inr ⟨expressible, _, given, deceptive⟩⟩
    · exact .inr ⟨_, bindStep, .inl ⟨_, shown, long⟩⟩
    · exact .inr ⟨_, bindStep, .inr ⟨(), checked, _, member, shown, overlong⟩⟩

/--
An intent has a query or is refused, except at number faults: an integer with too many
digits that is to be written out, or to be shown in the explanation, a month or a year that
looks like digits and is no numeral, and a placeholder with too many digits.
-/
theorem exists_or_refused_iff {wellFormed : List Char → Bool} :
    (∃ generated, buildWith wellFormed intent.toDraft columns = .ok generated) ∨
        (∃ error, buildWith wellFormed intent.toDraft columns = .error (.refused error)) ↔
      ¬NumberFault wellFormed columns intent := by
  rw [← stopsAtNumber_buildWith_iff, StopsAtNumber]
  cases buildWith wellFormed intent.toDraft columns with
  | ok generated => simp
  | error failure => cases failure <;> simp

/-- A month in a digit that no numeral is made of. -/
def superscriptIntent : Intent :=
  { dateRange := some { specificMonth := some "²" } }

/-- Such a month is not refused as malformed. -/
theorem buildWith_superscript :
    buildWith Grammar.accepts superscriptIntent.toDraft sampleColumns =
      .error (.number (.notAnInteger ['²'])) := by
  rfl

end Query

end RideQuery
