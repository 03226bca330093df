import Mathlib.Data.List.Forall2
import RideQuery.Proofs.Query.Names
import RideQuery.Proofs.Sql.Quoting

/-!
# Rearranged filters

A filter takes the number of the next placeholder and hands over its parameter under that
number.  So the number depends on the filters in front of it, but what its condition means
once the parameter is put into the place of the placeholder does not: a filter means what it
would mean alone.  Rearranging the filters of an intent therefore rearranges what the
conditions mean, and changes nothing else.
-/

namespace RideQuery

/-! ## Rearranged lists -/

section Lists

variable {α β : Type}

/-- The values at some positions of a list, in the order of the positions. -/
def rearranged (order : List Nat) (values : List α) : List α :=
  order.filterMap fun position => values[position]?

theorem rearranged_range (values : List α) :
    rearranged (List.range values.length) values = values := by
  induction values with
  | nil => rfl
  | cons value values inductionHypothesis =>
      rw [rearranged, List.length_cons, List.range_succ_eq_map, List.filterMap_cons,
        List.filterMap_map]
      exact congrArg (value :: ·) inductionHypothesis

/-- Positions that are all those of a list rearrange it. -/
theorem rearranged_perm {order : List Nat} {values : List α}
    (arranges : order.Perm (List.range values.length)) :
    (rearranged order values).Perm values := by
  have moved := arranges.filterMap fun position => values[position]?
  rwa [← rearranged, ← rearranged, rearranged_range] at moved

variable {related : α → β → Prop} {values : List α} {others : List β}

theorem rel_getElem? (lists : List.Forall₂ related values others) (position : Nat) :
    Option.Rel related values[position]? others[position]? := by
  induction lists generalizing position with
  | nil => exact .none
  | cons head _ inductionHypothesis =>
      cases position with
      | zero => exact .some head
      | succ position => exact inductionHypothesis position

/-- Lists that are related one by one stay so when they are rearranged in the same way. -/
theorem forall₂_rearranged (lists : List.Forall₂ related values others) (order : List Nat) :
    List.Forall₂ related (rearranged order values) (rearranged order others) := by
  induction order with
  | nil => exact .nil
  | cons position order inductionHypothesis =>
      have same := rel_getElem? lists position
      rw [rearranged, rearranged, List.filterMap_cons, List.filterMap_cons]
      generalize values[position]? = first at same
      generalize others[position]? = second at same
      cases same with
      | none => exact inductionHypothesis
      | some head => exact .cons head inductionHypothesis

end Lists

/-! ## Filled texts -/

namespace Sql

open RideQuery.Number

variable {parameters : List Value}

/-- What a piece means: a placeholder means its parameter, if it has one. -/
def Piece.filled (parameters : List Value) : Piece → List (Char ⊕ Value)
  | .placeholder digits =>
    match parameter? parameters (numberOf digits) with
    | some value => [.inr value]
    | none => ('$' :: digits).map .inl
  | other => other.text.map .inl

/-- A text with each placeholder replaced by the parameter with its number. -/
def filled (parameters : List Value) (text : List Char) : List (Char ⊕ Value) :=
  (pieces text).flatMap (Piece.filled parameters)

theorem filled_inert_append (parameters : List Value) {text : List Char} (inert : Inert text)
    (rest : List Char) :
    filled parameters (text ++ rest) = text.map .inl ++ filled parameters rest := by
  rw [filled, pieces_append_of_isInert inert, List.flatMap_append, List.flatMap_map,
    List.map_eq_flatMap]
  rfl

/-- Text without placeholders means itself. -/
theorem filled_of_inert (parameters : List Value) {text : List Char} (inert : Inert text) :
    filled parameters text = text.map .inl := by
  have whole := filled_inert_append parameters inert []
  simpa [filled] using whole

theorem filled_placeholder {number : Nat} {value : Value} {rest : List Char}
    (found : parameter? parameters number = some value) (separates : Separates rest) :
    filled parameters ('$' :: (numeral number ++ rest)) =
      .inr value :: filled parameters rest := by
  have decimal : ∀ c ∈ numeral number, Text.isDecimalDigit c = true :=
    fun c member => isDecimalDigit_of_isDigit (isDigit_of_mem_repr member)
  have nonempty : numeral number ≠ [] := toList_repr_ne_nil number
  have read : numberOf (numeral number) = number := ofDigits_repr number
  rw [filled, pieces_placeholder nonempty decimal separates, List.flatMap_cons, Piece.filled,
    read, found]
  rfl

end Sql

namespace Query

open RideQuery.Text RideQuery.Number RideQuery.Schema RideQuery.Sql

variable {columns : List Column} {filter : Filter} {column : Column}

/-! ## What a filter means -/

/-- A column that passes the check has a name that opens nothing. -/
theorem inert_ofColumn (usable : isUsable column = true) :
    Inert (Reference.ofColumn column).text := by
  have plain := (Bool.and_eq_true_iff.mp usable).1
  apply inert_append.mpr
  refine ⟨(solid_aliasOf column.table).inert, inert_cons.mpr ⟨by decide, ?_⟩⟩
  intro c member
  rcases mem_dropLineEnd member with inside | rfl
  · exact (isSolid_of_isIdentifierChar
      (isIdentifierChar_of_isPlainIdentifier plain c inside)).1
  · decide

theorem IsInlined.inert_text {condition : Condition} (inlined : IsInlined column condition)
    (inert : Inert (Reference.ofColumn column).text) : Inert condition.text := by
  unfold IsInlined at inlined
  split at inlined
  · obtain ⟨rfl, number⟩ := inlined
    have literal := (solid_of_numberText number).inert
    exact inert_append.mpr ⟨inert_append.mpr ⟨inert, inert_wording _⟩,
      inert_cons.mpr ⟨by decide, literal⟩⟩
  · obtain ⟨rfl, numbers⟩ := inlined
    have literals := inert_listed fun text member =>
      (solid_of_numberText (numbers text member)).inert
    exact inert_append.mpr ⟨inert_append.mpr ⟨inert_append.mpr ⟨inert, by decide⟩, literals⟩,
      by decide⟩
  · contradiction

/-- Around its number, the condition of a filter is the same under every number. -/
theorem exists_conjunct_text (filter : Filter)
    (inert : Inert (Reference.ofColumn column).text) :
    ∃ front back, Inert front ∧ Inert back ∧ Separates back ∧
      ∀ number, (conjunct filter column number).text =
        front ++ '$' :: (numeral number ++ back) := by
  by_cases isIn : filter.operator = .isIn
  · have opening : Inert " = ANY(".toList := by decide
    refine ⟨_, ")".toList, inert_append.mpr ⟨inert, opening⟩, by decide, by decide, ?_⟩
    intro number
    rw [conjunct, if_pos isIn]
    unfold Condition.text
    simp only [placeholderText, numeral, List.append_assoc, List.cons_append]
  · have blank : Inert [' '] := by decide
    have wording := inert_append.mpr ⟨inert_wording filter.operator, blank⟩
    refine ⟨_, [], inert_append.mpr ⟨inert, wording⟩, by decide, separates_nil, ?_⟩
    intro number
    rw [conjunct, if_neg isIn]
    unfold Condition.text
    simp only [Operand.text, placeholderText, numeral, List.append_assoc, List.cons_append,
      List.nil_append, List.append_nil]

/-- A parameterised filter that is a condition under one number is one under every number. -/
theorem filterCondition_renumbered (parameterised : filter.parameterised = true)
    {number : Nat} {result : Condition × Option Value}
    (made : filterCondition number filter.toDraft column = .ok result) (other : Nat) :
    filterCondition other filter.toDraft column =
      .ok (conjunct filter column other, some filter.argument) := by
  by_cases operator : filter.operator = .isIn
  · rw [filterCondition_isIn operator, bind_eq_ok_iff] at made
    obtain ⟨items, listed, _⟩ := made
    have isList := argument_of_members? (require_eq_ok_iff.mp listed)
    rw [filterCondition_isIn operator, listed, ok_bind, if_pos parameterised, conjunct,
      if_pos operator, isList]
    rfl
  · rw [filterCondition_of_ne_isIn operator, if_pos parameterised, conjunct, if_neg operator]
    rfl

/-- A filter that is written out does not look at the number. -/
theorem filterCondition_eq_of_inlined (inlined : ¬filter.parameterised = true)
    (number other : Nat) :
    filterCondition number filter.toDraft column = filterCondition other filter.toDraft column := by
  by_cases operator : filter.operator = .isIn
  · simp only [filterCondition_isIn operator, if_neg inlined]
  · simp only [filterCondition_of_ne_isIn operator, if_neg inlined]

/-- What a filter means when it is alone. -/
def Means (columns : List Column) (filter : Filter) (letters : List (Char ⊕ Value)) : Prop :=
  ∃ column condition parameter, findColumn columns filter.column = some column ∧
    filterCondition 1 filter.toDraft column = .ok (condition, parameter) ∧
    filled parameter.toList condition.text = letters

theorem rightUnique_means : Relator.RightUnique (Means columns) := by
  rintro filter _ _ ⟨column, condition, parameter, found, made, rfl⟩
    ⟨other, condition', parameter', again, remade, rfl⟩
  obtain rfl := Option.some.inj (found.symm.trans again)
  obtain ⟨rfl, rfl⟩ := Prod.mk.inj (Except.ok.inj (made.symm.trans remade))
  rfl

/-- A filter means under every number what it means alone. -/
theorem means_of_filterCondition (usable : isUsable column = true)
    (found : findColumn columns filter.column = some column) {number : Nat}
    {condition : Condition} {parameter : Option Value} {parameters : List Value}
    (made : filterCondition number filter.toDraft column = .ok (condition, parameter))
    (own : ∀ value ∈ parameter, parameter? parameters number = some value) :
    Means columns filter (filled parameters condition.text) := by
  have inert := inert_ofColumn usable
  by_cases parameterised : filter.parameterised = true
  · obtain ⟨rfl, rfl⟩ := Prod.mk.inj (filterCondition_passed parameterised made)
    refine ⟨column, _, _, found, filterCondition_renumbered parameterised made 1, ?_⟩
    obtain ⟨front, back, frontInert, backInert, separates, texts⟩ :=
      exists_conjunct_text filter inert
    have alone : parameter? [filter.argument] 1 = some filter.argument := rfl
    rw [texts, texts, filled_inert_append _ frontInert, filled_inert_append _ frontInert,
      Option.toList_some, filled_placeholder alone separates,
      filled_placeholder (own _ rfl) separates, filled_of_inert _ backInert,
      filled_of_inert _ backInert]
  · obtain ⟨literal, rfl⟩ := filterCondition_inlined parameterised made
    rw [filterCondition_eq_of_inlined parameterised number 1] at made
    refine ⟨column, condition, none, found, made, ?_⟩
    have silent := literal.inert_text inert
    rw [filled_of_inert _ silent, filled_of_inert _ silent]

/-- Conditions mean what their filters mean alone, whatever parameters come first. -/
theorem means_of_filterConditions {filters : List Filter} {resolved : List (DraftFilter × Column)}
    (resolves : List.Forall₂ (Resolves columns) filters resolved)
    (usable : ∀ filter ∈ filters, ∀ column, findColumn columns filter.column = some column →
      isUsable column = true)
    (before : List Value) {parameters : List Value} {conditions : List Condition}
    (made : filterConditions (before.length + 1) resolved = .ok (conditions, parameters)) :
    List.Forall₂ (Means columns) filters
      (conditions.map fun condition => filled (before ++ parameters) condition.text) := by
  induction resolves generalizing before conditions parameters with
  | nil =>
      obtain ⟨rfl, rfl⟩ := Prod.mk.inj (Except.ok.inj made)
      exact .nil
  | @cons filter pair filters resolved resolve _ inductionHypothesis =>
      obtain ⟨draft, column⟩ := pair
      obtain ⟨rfl, found⟩ := resolve
      obtain ⟨⟨condition, parameter⟩, one, others⟩ := bind_eq_ok_iff.mp made
      obtain ⟨⟨restConditions, restParameters⟩, rest, done⟩ := bind_eq_ok_iff.mp others
      obtain ⟨rfl, rfl⟩ := Prod.mk.inj (pure_eq_ok_iff.mp done)
      obtain ⟨firstUsable, othersUsable⟩ := List.forall_mem_cons.mp usable
      have own : ∀ value ∈ parameter,
          parameter? (before ++ (parameter.toList ++ restParameters)) (before.length + 1) =
            some value := by
        rintro value rfl
        simp [parameter?]
      have first := means_of_filterCondition (firstUsable column found) found one own
      refine .cons first ?_
      -- What this filter hands over joins the parameters in front of the others.
      rw [← List.append_assoc]
      apply inductionHypothesis othersUsable
      cases parameter with
      | none => simpa using rest
      | some value => simpa using rest

/-! ## Layouts -/

/-- A statement with its conditions replaced by others. -/
def Statement.withConditions (statement : Statement) (conditions : List Condition) : Statement :=
  { statement with conditions }

variable {intent intent' : Intent} {layout layout' : Layout}

/-- The joins are found from the dimensions. -/
theorem Layout.Of.mapM_joinOf (isOf : layout.Of columns intent) :
    (dimensionsOf layout.used).mapM (joinOf columns) = .ok layout.joins := by
  rw [← isOf.dimensions, mapM_eq_ok_iff, List.forall₂_map_left_iff, List.forall₂_same]
  exact isOf.joins

/-- Columns that are used are joined in the same way in whatever order they are used. -/
theorem dimensionsOf_congr {used others : List Column}
    (same : ∀ column, column ∈ used ↔ column ∈ others) :
    dimensionsOf used = dimensionsOf others := by
  apply List.filter_congr
  intro dimension _
  rw [Bool.eq_iff_iff, List.any_eq_true, List.any_eq_true]
  simp only [same]

theorem Layout.Of.joins_eq (isOf : layout.Of columns intent) (isOf' : layout'.Of columns intent')
    (filters : ∀ filter, filter ∈ intent'.filters ↔ filter ∈ intent.filters)
    (groups : layout'.groups = layout.groups) : layout'.joins = layout.joins := by
  have used : ∀ column, column ∈ layout'.used ↔ column ∈ layout.used := by
    intro column
    rw [isOf.mem_used_iff, isOf'.mem_used_iff, groups]
    simp only [filters]
  have joined := isOf'.mapM_joinOf
  rw [dimensionsOf_congr used, isOf.mapM_joinOf] at joined
  exact (Except.ok.inj joined).symm

/-- The conditions of a query, with what they mean once the parameters are put in. -/
theorem exists_means_of_buildWith {wellFormed : List Char → Bool} {generated : Generated}
    (built : buildWith wellFormed intent.toDraft columns = .ok generated) :
    ∃ (layout : Layout) (predicates dates : List Condition), layout.Of columns intent ∧
      optionalDateConditions columns intent.dateRange = .ok dates ∧
      generated.statement = layout.statement intent.aggregation (predicates ++ dates) ∧
      List.Forall₂ (Means columns) intent.filters
        (predicates.map fun predicate => filled generated.parameters predicate.text) := by
  obtain ⟨bound, bindStep, _, statement_eq, parameters_eq⟩ := exists_bound_of_buildWith built
  obtain ⟨layout, laidOut, completed⟩ := exists_layout_of_bind bindStep
  have isOf := Layout.of_layOut laidOut
  obtain ⟨predicates, dates, filtered, dated, own⟩ := Layout.exists_of_complete completed
  have usable : ∀ filter ∈ intent.filters, ∀ column,
      findColumn columns filter.column = some column → isUsable column = true :=
    fun filter member column found => isUsable_of_layOut laidOut (.filter member found)
  have means := means_of_filterConditions isOf.filters usable [] filtered
  rw [← parameters_eq] at means
  exact ⟨layout, predicates, dates, isOf, dated, statement_eq.trans own, means⟩

/-! ## Rearranged intents -/

/--
If the filters of an intent are rearranged, its statement changes in the conditions of the
filters only.  What these mean, once each placeholder is replaced by its parameter, is
rearranged as the filters are.
-/
theorem rearranged_of_buildWith {wellFormed : List Char → Bool} {order : List Nat}
    {generated generated' : Generated}
    (arranges : order.Perm (List.range intent.filters.length))
    (built : buildWith wellFormed intent.toDraft columns = .ok generated)
    (rebuilt : buildWith wellFormed
      { intent with filters := rearranged order intent.filters }.toDraft columns =
        .ok generated') :
    ∃ predicates predicates' dates : List Condition,
      optionalDateConditions columns intent.dateRange = .ok dates ∧
      generated.statement.conditions = predicates ++ dates ∧
      generated'.statement = generated.statement.withConditions (predicates' ++ dates) ∧
      predicates.length = intent.filters.length ∧
      (predicates'.map fun predicate => filled generated'.parameters predicate.text) =
        rearranged order
          (predicates.map fun predicate => filled generated.parameters predicate.text) := by
  obtain ⟨layout, predicates, dates, isOf, dated, statement_eq, means⟩ :=
    exists_means_of_buildWith built
  obtain ⟨layout', predicates', dates', isOf', dated', statement_eq', means'⟩ :=
    exists_means_of_buildWith rebuilt
  obtain rfl := Except.ok.inj (dated.symm.trans dated')
  have groups := Except.ok.inj (isOf'.groups.symm.trans isOf.groups)
  have aggregate := Except.ok.inj (isOf'.aggregate.symm.trans isOf.aggregate)
  have members : ∀ filter, filter ∈ rearranged order intent.filters ↔ filter ∈ intent.filters :=
    fun filter => (rearranged_perm arranges).mem_iff
  have joins := isOf.joins_eq isOf' members groups
  refine ⟨predicates, predicates', dates, dated, congrArg Statement.conditions statement_eq,
    ?_, ?_, ?_⟩
  · rw [statement_eq', statement_eq, Layout.statement, Layout.statement, groups, aggregate, joins]
    rfl
  · simpa using means.length_eq.symm
  · exact List.right_unique_forall₂' rightUnique_means means' (forall₂_rearranged means order)

/-- The sample with its filters in another order, the one that is written out now last. -/
def rearrangedSample : Intent :=
  { sampleIntent with filters := rearranged [2, 0, 1] sampleIntent.filters }

theorem rearranged_of_buildWith_sample :
    [2, 0, 1].Perm (List.range sampleIntent.filters.length) ∧
      ∃ generated generated',
        buildWith (fun _ => true) sampleIntent.toDraft sampleColumns = .ok generated ∧
        buildWith (fun _ => true) rearrangedSample.toDraft sampleColumns = .ok generated' ∧
        generated'.statement.outputs = generated.statement.outputs ∧
        generated'.statement.joins = generated.statement.joins := by
  have arranges : [2, 0, 1].Perm (List.range sampleIntent.filters.length) := by decide
  obtain ⟨generated, built⟩ : ∃ generated,
      buildWith (fun _ => true) sampleIntent.toDraft sampleColumns = .ok generated :=
    exists_eq_ok_of_isOk (by decide +kernel)
  obtain ⟨generated', rebuilt⟩ : ∃ generated,
      buildWith (fun _ => true) rearrangedSample.toDraft sampleColumns = .ok generated :=
    exists_eq_ok_of_isOk (by decide +kernel)
  obtain ⟨_, _, _, _, _, same, _⟩ := rearranged_of_buildWith arranges built rebuilt
  refine ⟨arranges, generated, generated', built, rebuilt, ?_, ?_⟩
  · rw [same]
    rfl
  · rw [same]
    rfl

end Query

end RideQuery
