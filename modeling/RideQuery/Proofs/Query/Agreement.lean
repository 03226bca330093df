import RideQuery.Proofs.Query.Execution
import RideQuery.Proofs.Value.Display

/-!
# Independence of passed values

What a parameterised filter compares its column with is passed beside a query and is no
part of it.  Two intents that agree but for such values are built in lockstep: either
neither has a query, or both have the same statement.
-/

namespace RideQuery

open RideQuery.Text RideQuery.Number RideQuery.Schema RideQuery.Sql

/-! ## Agreement -/

/-- Values that an operator can be passed: lists for a membership, displayable ones else. -/
def Operator.Accepts (operator : Operator) (value : FilterValue) : Prop :=
  if operator = .isIn then ∃ members, value = .texts members else value.IsDisplayable

theorem Operator.Accepts.isDisplayable {operator : Operator} {value : FilterValue}
    (accepts : operator.Accepts value) : value.IsDisplayable := by
  unfold Operator.Accepts at accepts
  split at accepts
  · obtain ⟨members, rfl⟩ := accepts
    trivial
  · exact accepts

/-- Filters that are equal but for the value that is passed beside a query. -/
structure Filter.Agrees (filter other : Filter) : Prop where
  column : filter.column = other.column
  operator : filter.operator = other.operator
  parameterised : filter.parameterised = other.parameterised
  value : filter.value = other.value ∨
    filter.parameterised = true ∧ filter.operator.Accepts filter.value ∧
      other.operator.Accepts other.value

theorem Filter.Agrees.eq_or_passed {filter other : Filter} (agrees : filter.Agrees other) :
    filter = other ∨
      filter.parameterised = true ∧ filter.operator.Accepts filter.value ∧
        other.operator.Accepts other.value := by
  apply agrees.value.imp_left
  intro value
  obtain ⟨column, operator, parameterised, _⟩ := agrees
  cases filter
  cases other
  simp_all

/-- Intents that are equal but for the values that are passed beside a query. -/
structure Intent.Agrees (intent other : Intent) : Prop where
  aggregation : intent.aggregation = other.aggregation
  filters : List.Forall₂ Filter.Agrees intent.filters other.filters
  dateRange : intent.dateRange = other.dateRange
  groupBy : intent.groupBy = other.groupBy

namespace Query

variable {columns : List Column}

/-! ## Conditions in lockstep -/

/-- Conditions are the same, and a parameter is handed over in both cases or in neither. -/
def SameCondition (made other : Condition × Option Value) : Prop :=
  made.1 = other.1 ∧ made.2.isSome = other.2.isSome

theorem lockstep_filterCondition {filter other : Filter} (agrees : filter.Agrees other)
    (number : Nat) (column : Column) :
    Lockstep SameCondition (filterCondition number filter.toDraft column)
      (filterCondition number other.toDraft column) := by
  rcases agrees.eq_or_passed with rfl | ⟨parameterised, accepts, otherAccepts⟩
  · exact Lockstep.refl (fun _ => ⟨rfl, rfl⟩) _
  · have otherParameterised : other.parameterised = true := agrees.parameterised ▸ parameterised
    by_cases isIn : filter.operator = .isIn
    · have otherIsIn : other.operator = .isIn := agrees.operator ▸ isIn
      rw [Operator.Accepts, if_pos isIn] at accepts
      rw [Operator.Accepts, if_pos otherIsIn] at otherAccepts
      obtain ⟨members, value⟩ := accepts
      obtain ⟨otherMembers, otherValue⟩ := otherAccepts
      rw [filterCondition_isIn isIn, filterCondition_isIn otherIsIn, Filter.argument,
        Filter.argument, value, otherValue, parameterised, otherParameterised]
      exact ⟨rfl, rfl⟩
    · have otherIsNot : other.operator ≠ .isIn := agrees.operator ▸ isIn
      rw [filterCondition_of_ne_isIn isIn, filterCondition_of_ne_isIn otherIsNot,
        if_pos parameterised, if_pos otherParameterised, agrees.operator]
      exact ⟨rfl, rfl⟩

/-- Unchecked filters that come from agreeing ones. -/
def DraftsAgree (draft other : DraftFilter) : Prop :=
  ∃ filter filter' : Filter,
    filter.Agrees filter' ∧ draft = filter.toDraft ∧ other = filter'.toDraft

/-- Agreeing filters on the same column. -/
def ResolvedAgree (resolved other : DraftFilter × Column) : Prop :=
  DraftsAgree resolved.1 other.1 ∧ resolved.2 = other.2

theorem draftsAgree_of_agrees {filters others : List Filter}
    (agree : List.Forall₂ Filter.Agrees filters others) :
    List.Forall₂ DraftsAgree (filters.map Filter.toDraft) (others.map Filter.toDraft) := by
  rw [List.forall₂_map_left_iff, List.forall₂_map_right_iff]
  exact agree.imp fun filter other agrees => ⟨filter, other, agrees, rfl, rfl⟩

theorem lockstep_filterColumns {drafts others : List DraftFilter}
    (agree : List.Forall₂ DraftsAgree drafts others) :
    Lockstep (List.Forall₂ ResolvedAgree) (filterColumns columns drafts)
      (filterColumns columns others) := by
  apply Lockstep.mapM agree
  intro draft other draftsAgree
  obtain ⟨filter, filter', agrees, rfl, rfl⟩ := draftsAgree
  have same : resolve columns .filter filter'.toDraft.column =
      resolve columns .filter filter.toDraft.column :=
    congrArg (fun name => resolve columns .filter (.text name)) agrees.column.symm
  rw [same]
  apply Lockstep.bindSame
  intro column
  exact Lockstep.pure ⟨⟨filter, filter', agrees, rfl, rfl⟩, rfl⟩

/-- Conditions are the same, and as many parameters are handed over. -/
def SameConditions (made other : List Condition × List Value) : Prop :=
  made.1 = other.1 ∧ made.2.length = other.2.length

theorem lockstep_filterConditions {resolved others : List (DraftFilter × Column)}
    (agree : List.Forall₂ ResolvedAgree resolved others) (number : Nat) :
    Lockstep SameConditions (filterConditions number resolved)
      (filterConditions number others) := by
  induction agree generalizing number with
  | nil => exact ⟨rfl, rfl⟩
  | @cons first second resolved others agrees _ inductionHypothesis =>
      obtain ⟨draft, column⟩ := first
      obtain ⟨other, column'⟩ := second
      obtain ⟨⟨filter, filter', filtersAgree, rfl, rfl⟩, rfl⟩ := agrees
      unfold filterConditions
      apply Lockstep.bind (lockstep_filterCondition filtersAgree number column)
      rintro ⟨condition, parameter⟩ ⟨condition', parameter'⟩ ⟨rfl, passed⟩
      dsimp only at passed ⊢
      rw [passed]
      apply Lockstep.bind (inductionHypothesis _)
      rintro ⟨conditions, parameters⟩ ⟨conditions', parameters'⟩ ⟨rfl, length⟩
      have handed : parameter.toList.length = parameter'.toList.length := by
        cases parameter <;> cases parameter' <;> simp_all
      apply Lockstep.pure
      constructor
      · rfl
      · dsimp only at length ⊢
        rw [List.length_append, List.length_append, length, handed]

/-! ## Statements in lockstep -/

/-- Statements are the same, and as many parameters are passed. -/
def SameBound (bound other : Bound) : Prop :=
  bound.statement = other.statement ∧ bound.parameters.length = other.parameters.length

theorem lockstep_bind {intent other : Intent} (agrees : intent.Agrees other) :
    Lockstep SameBound (bind intent.toDraft columns) (bind other.toDraft columns) := by
  obtain ⟨kind, aggregation, filters, dateRange, groupBy⟩ := intent
  obtain ⟨otherKind, _, others, _, _⟩ := other
  obtain ⟨rfl, agree, rfl, rfl⟩ := agrees
  unfold bind
  apply Lockstep.bindSame
  intro aggregation
  apply Lockstep.bindSame
  intro groups
  apply Lockstep.bind (lockstep_filterColumns (draftsAgree_of_agrees agree))
  intro resolved resolved' resolvedAgree
  apply Lockstep.bindSame
  intro aggregate
  have sameColumns : resolved.map Prod.snd = resolved'.map Prod.snd := by
    rw [← List.forall₂_eq_eq_eq, List.forall₂_map_left_iff, List.forall₂_map_right_iff]
    exact resolvedAgree.imp fun _ _ => And.right
  dsimp only
  rw [sameColumns]
  apply Lockstep.bindSame
  intro joins
  apply Lockstep.bind (lockstep_filterConditions resolvedAgree 1)
  rintro ⟨conditions, parameters⟩ ⟨_, parameters'⟩ ⟨rfl, length⟩
  apply Lockstep.bindSame
  intro dates
  exact Lockstep.pure ⟨rfl, length⟩

theorem checkText_congr {wellFormed : List Char → Bool} {text : List Char}
    {parameters others : List Value} (length : parameters.length = others.length) :
    checkText wellFormed text parameters = checkText wellFormed text others := by
  rw [checkText, checkText, length]

/-! ## Explanations in lockstep -/

theorem lockstep_describeFilter {draft other : DraftFilter} (agree : DraftsAgree draft other) :
    Lockstep (fun _ _ => True) (describeFilter columns draft) (describeFilter columns other) := by
  obtain ⟨filter, filter', agrees, rfl, rfl⟩ := agree
  rcases agrees.eq_or_passed with rfl | ⟨_, accepts, otherAccepts⟩
  · exact Lockstep.refl (fun _ => trivial) _
  · obtain ⟨value, shown⟩ := accepts.isDisplayable.exists_plain
    obtain ⟨value', shown'⟩ := otherAccepts.isDisplayable.exists_plain
    have subject : filterSubject filter'.toDraft.operator
        (namedColumn columns filter'.toDraft.column) =
        filterSubject filter.toDraft.operator (namedColumn columns filter.toDraft.column) := by
      simp only [Filter.toDraft, agrees.operator, agrees.column]
    have valueShown : filter.toDraft.value.plain = .ok value := shown
    have valueShown' : filter'.toDraft.value.plain = .ok value' := shown'
    rw [describeFilter, describeFilter, subject, valueShown, valueShown']
    split <;> trivial

theorem lockstep_explain {intent other : Intent} (agrees : intent.Agrees other) :
    Lockstep (fun _ _ => True) (explain intent.toDraft columns)
      (explain other.toDraft columns) := by
  apply Lockstep.bind
  · apply Lockstep.mapM (draftsAgree_of_agrees agrees.filters)
    intro draft other agree
    exact lockstep_describeFilter agree
  · exact fun _ _ _ => trivial

/-! ## Queries in lockstep -/

/-- Statements are the same, and as many parameters are passed. -/
def SameQuery (generated other : Generated) : Prop :=
  generated.statement = other.statement ∧
    generated.parameters.length = other.parameters.length

theorem lockstep_buildWith (wellFormed : List Char → Bool) {intent other : Intent}
    (agrees : intent.Agrees other) :
    Lockstep SameQuery (buildWith wellFormed intent.toDraft columns)
      (buildWith wellFormed other.toDraft columns) := by
  unfold buildWith
  apply Lockstep.bind (lockstep_bind agrees)
  rintro ⟨statement, parameters⟩ ⟨_, parameters'⟩ ⟨rfl, length⟩
  dsimp only
  rw [checkText_congr length]
  apply Lockstep.bindSame
  intro checked
  apply Lockstep.bind (lockstep_explain agrees).mapError
  intro explanation explanation' _
  exact Lockstep.pure ⟨rfl, length⟩

theorem agrees_of_parameterised {filters others : List Filter}
    (agree : List.Forall₂ Filter.Agrees filters others) :
    List.Forall₂ Filter.Agrees (filters.filter Filter.parameterised)
      (others.filter Filter.parameterised) :=
  List.rel_filter (fun _ _ agrees => iff_of_eq (congrArg (· = true) agrees.parameterised)) agree

/--
Of two intents that agree but for passed values, either both have a query or neither has.
The texts of their queries are the same, and a parameter can only differ if it belongs to
a filter whose values differ.
-/
theorem sql_eq_of_agrees (wellFormed : List Char → Bool) (columns : List Column)
    {intent other : Intent} (agrees : intent.Agrees other) :
    ((∃ generated, buildWith wellFormed intent.toDraft columns = .ok generated) ↔
        ∃ generated, buildWith wellFormed other.toDraft columns = .ok generated) ∧
      ∀ generated generated',
        buildWith wellFormed intent.toDraft columns = .ok generated →
        buildWith wellFormed other.toDraft columns = .ok generated' →
        generated.sql = generated'.sql ∧
          generated.parameters.length = generated'.parameters.length ∧
          ∀ position : Nat,
            generated.parameters[position]? ≠ generated'.parameters[position]? →
            ∃ filter filter' : Filter,
              (intent.filters.filter Filter.parameterised)[position]? = some filter ∧
                (other.filters.filter Filter.parameterised)[position]? = some filter' ∧
                filter.value ≠ filter'.value := by
  have lockstep : Lockstep SameQuery (buildWith wellFormed intent.toDraft columns)
      (buildWith wellFormed other.toDraft columns) := lockstep_buildWith wellFormed agrees
  obtain ⟨together, same⟩ := Lockstep.iff.mp lockstep
  refine ⟨together, fun generated generated' built built' => ?_⟩
  obtain ⟨statement, length⟩ := same generated generated' built built'
  refine ⟨by rw [Generated.sql, Generated.sql, statement], length, fun position differ => ?_⟩
  have filters := agrees_of_parameterised agrees.filters
  rw [parameters_of_buildWith built, parameters_of_buildWith built'] at differ
  by_cases inside : position < (intent.filters.filter Filter.parameterised).length
  · have inside' : position < (other.filters.filter Filter.parameterised).length :=
      filters.length_eq ▸ inside
    refine ⟨_, _, List.getElem?_eq_getElem inside, List.getElem?_eq_getElem inside', ?_⟩
    intro value
    apply differ
    rw [List.getElem?_map, List.getElem?_map, List.getElem?_eq_getElem inside,
      List.getElem?_eq_getElem inside', Option.map_some, Option.map_some, Filter.argument,
      Filter.argument, value]
  · apply absurd _ differ
    have outside : (intent.filters.filter Filter.parameterised).length ≤ position :=
      Nat.not_lt.mp inside
    rw [List.getElem?_eq_none (by simpa using outside),
      List.getElem?_eq_none (by simpa [filters.length_eq] using outside)]

/-- The sample intent with values that would be dangerous in the text of a query. -/
def hostileIntent : Intent :=
  { filters :=
      [{ column := "station_name", operator := .like, value := .text "'; DROP TABLE trips" },
        { column := "distance_km", operator := .less, value := .int 5, parameterised := false },
        { column := "station_name", operator := .isIn, value := .texts ["$3"] }] }

theorem agrees_hostileIntent : sampleIntent.Agrees hostileIntent where
  aggregation := rfl
  filters := by
    refine .cons ⟨rfl, rfl, rfl, .inr ⟨rfl, trivial, trivial⟩⟩ ?_
    refine .cons ⟨rfl, rfl, rfl, .inl rfl⟩ ?_
    exact .cons ⟨rfl, rfl, rfl, .inr ⟨rfl, ⟨_, rfl⟩, ⟨_, rfl⟩⟩⟩ .nil
  dateRange := rfl
  groupBy := rfl

theorem sql_eq_of_agrees_hostile :
    sampleIntent.Agrees hostileIntent ∧
      ∃ generated generated',
        buildWith (fun _ => true) sampleIntent.toDraft sampleColumns = .ok generated ∧
          buildWith (fun _ => true) hostileIntent.toDraft sampleColumns = .ok generated' ∧
          generated.sql = generated'.sql := by
  obtain ⟨together, same⟩ :=
    sql_eq_of_agrees (fun _ => true) sampleColumns agrees_hostileIntent
  obtain ⟨generated, built⟩ : ∃ generated,
      buildWith (fun _ => true) sampleIntent.toDraft sampleColumns = .ok generated :=
    exists_eq_ok_of_isOk (by decide +kernel)
  obtain ⟨generated', built'⟩ := together.mp ⟨generated, built⟩
  exact ⟨agrees_hostileIntent, generated, generated', built, built',
    (same generated generated' built built').1⟩

end Query

end RideQuery
