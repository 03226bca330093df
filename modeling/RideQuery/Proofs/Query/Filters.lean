import RideQuery.Proofs.Fallible
import RideQuery.Proofs.Query.Text
import RideQuery.Query.Build

/-!
# Filters as conditions

The filters of a checked intent are gone through in order.  Each parameterised one takes
the next placeholder and hands over its parameter at the same time, while each other one
is written out with numbers only.
-/

namespace RideQuery

open RideQuery.Text RideQuery.Number RideQuery.Schema RideQuery.Sql

/-- What a filter compares its column with, as an open value. -/
def Filter.argument (filter : Filter) : Value :=
  filter.value.toValue

namespace Query

/-! ## Failing steps -/

theorem refuse_ne_ok {α : Type} {error : BuildError} {result : α} :
    (refuse error : Building α) ≠ .ok result :=
  nofun

/-- A refusal whose message has to be made first is none the less a refusal. -/
theorem bind_refuse_ne_ok {α β : Type} {step : Building β} {error : β → BuildError}
    {result : α} : (step >>= fun shown => refuse (error shown)) ≠ .ok result := by
  intro succeeded
  obtain ⟨shown, _, refused⟩ := bind_eq_ok_iff.mp succeeded
  exact refuse_ne_ok refused

@[simp]
theorem require_eq_ok_iff {α : Type} {value : Option α} {error : BuildError} {result : α} :
    require value error = .ok result ↔ value = some result := by
  cases value <;> simp [require, refuse]

@[simp]
theorem numeric_eq_ok_iff {α : Type} {step : Except NumberError α} {result : α} :
    numeric step = .ok result ↔ step = .ok result := by
  cases step <;> simp [numeric, Except.mapError]

theorem requireColumn_eq_ok_iff {column : Option Column} {needed : Needed}
    {reference : Reference} :
    requireColumn column needed = .ok reference ↔
      ∃ found, column = some found ∧ Reference.fact found.name = reference := by
  simp only [requireColumn, bind_eq_ok_iff, require_eq_ok_iff, pure_eq_ok_iff]

/-! ## Literals -/

theorem numberText_of_numberLiteral {value : Value} {text : List Char}
    (written : numberLiteral value = .ok text) : NumberText text := by
  cases value with
  | float x =>
      obtain rfl := Except.ok.inj written
      exact .textWith x
  | int n =>
      obtain ⟨digits, fits, done⟩ := bind_eq_ok_iff.mp written
      rw [numeric_eq_ok_iff, writeInteger] at fits
      rw [pure_eq_ok_iff] at done
      split at fits
      · rw [← done, ← Except.ok.inj fits]
        exact .integerText n
      · contradiction
  | _ => exact absurd written bind_refuse_ne_ok

theorem argument_of_members? {filter : Filter} {items : List Value}
    (listed : members? filter.argument = some items) : filter.argument = .list items := by
  unfold Filter.argument at listed ⊢
  cases value : filter.value with
  | texts members =>
      rw [value] at listed
      exact congrArg Value.list (Option.some.inj listed)
  | _ => simp [value, FilterValue.toValue, members?] at listed

/-! ## One filter -/

theorem filterCondition_isIn {filter : Filter} (isIn : filter.operator = .isIn) (number : Nat)
    (column : Column) :
    filterCondition number filter.toDraft column = (do
      let items ← require (members? filter.argument) (.needsList column.name)
      if filter.parameterised then
        pure (.anyOf (.ofColumn column) number, some (.list items))
      else
        let literals ← items.mapM numberLiteral
        pure (.oneOf (.ofColumn column) literals, none)) := by
  simp only [filterCondition, Filter.toDraft, isIn]
  rfl

theorem filterCondition_of_ne_isIn {filter : Filter} (other : filter.operator ≠ .isIn)
    (number : Nat) (column : Column) :
    filterCondition number filter.toDraft column =
      (if filter.parameterised then
        pure (.compare (.ofColumn column) filter.operator (.placeholder number),
          some filter.argument)
      else do
        let literal ← numberLiteral filter.argument
        pure (.compare (.ofColumn column) filter.operator (.literal literal), none)) := by
  cases operator : filter.operator with
  | isIn => contradiction
  | _ =>
      simp only [filterCondition, Filter.toDraft, operator]
      rfl

/-- The condition that a parameterised filter is under its placeholder. -/
def conjunct (filter : Filter) (column : Column) (number : Nat) : Condition :=
  if filter.operator = .isIn then .anyOf (.ofColumn column) number
  else .compare (.ofColumn column) filter.operator (.placeholder number)

/-- Conditions on a column that are written out with numbers only. -/
def IsInlined (column : Column) : Condition → Prop
  | .compare target _ (.literal text) => target = .ofColumn column ∧ NumberText text
  | .oneOf target literals =>
    target = .ofColumn column ∧ ∀ text ∈ literals, NumberText text
  | _ => False

theorem filterCondition_passed {filter : Filter} (parameterised : filter.parameterised = true)
    {number : Nat} {column : Column} {result : Condition × Option Value}
    (made : filterCondition number filter.toDraft column = .ok result) :
    result = (conjunct filter column number, some filter.argument) := by
  by_cases operator : filter.operator = .isIn
  · rw [filterCondition_isIn operator, bind_eq_ok_iff] at made
    obtain ⟨items, listed, done⟩ := made
    rw [require_eq_ok_iff] at listed
    rw [if_pos parameterised, pure_eq_ok_iff] at done
    rw [← done, conjunct, if_pos operator, argument_of_members? listed]
  · rw [filterCondition_of_ne_isIn operator, if_pos parameterised, pure_eq_ok_iff] at made
    rw [← made, conjunct, if_neg operator]

theorem filterCondition_inlined {filter : Filter} (inlined : ¬filter.parameterised = true)
    {number : Nat} {column : Column} {result : Condition × Option Value}
    (made : filterCondition number filter.toDraft column = .ok result) :
    IsInlined column result.1 ∧ result.2 = none := by
  by_cases operator : filter.operator = .isIn
  · rw [filterCondition_isIn operator, bind_eq_ok_iff] at made
    obtain ⟨items, _, rest⟩ := made
    rw [if_neg inlined, bind_eq_ok_iff] at rest
    obtain ⟨literals, written, done⟩ := rest
    rw [pure_eq_ok_iff] at done
    subst done
    have numbers : ∀ text ∈ literals, NumberText text := by
      intro text member
      obtain ⟨value, _, literal⟩ := exists_of_mem_mapM written text member
      exact numberText_of_numberLiteral literal
    exact ⟨⟨rfl, numbers⟩, rfl⟩
  · rw [filterCondition_of_ne_isIn operator, if_neg inlined, bind_eq_ok_iff] at made
    obtain ⟨literal, written, done⟩ := made
    rw [pure_eq_ok_iff] at done
    subst done
    exact ⟨⟨rfl, numberText_of_numberLiteral written⟩, rfl⟩

/-! ## All filters -/

theorem resolve_text_eq_ok_iff {columns : List Column} {role : Role} {name : String}
    {column : Column} :
    resolve columns role (.text name) = .ok column ↔
      findColumn columns name = some column ∧ isUsable column = true := by
  simp only [resolve, namedColumn]
  cases found : findColumn columns name with
  | none => simpa using bind_refuse_ne_ok
  | some other =>
      by_cases usable : isUsable other = true
      · simp only [if_pos usable, Except.ok.injEq, Option.some.injEq]
        constructor
        · rintro rfl
          exact ⟨rfl, usable⟩
        · exact And.left
      · simp only [if_neg usable, Option.some.injEq]
        constructor
        · intro resolved
          exact absurd resolved bind_refuse_ne_ok
        · rintro ⟨rfl, contrary⟩
          exact absurd contrary usable

/--
Filters with the conditions that they are and the parameters that they hand over, the
number of the next placeholder being given.
-/
inductive Numbered (columns : List Column) :
    Nat → List Filter → List Condition → List Value → Prop
  | nil {number : Nat} : Numbered columns number [] [] []
  | passed {number : Nat} {filter : Filter} {filters : List Filter} {column : Column}
      {conditions : List Condition} {parameters : List Value}
      (parameterised : filter.parameterised = true)
      (found : findColumn columns filter.column = some column)
      (rest : Numbered columns (number + 1) filters conditions parameters) :
      Numbered columns number (filter :: filters)
        (conjunct filter column number :: conditions) (filter.argument :: parameters)
  | inlined {number : Nat} {filter : Filter} {filters : List Filter} {column : Column}
      {condition : Condition} {conditions : List Condition} {parameters : List Value}
      (parameterised : ¬filter.parameterised = true)
      (found : findColumn columns filter.column = some column)
      (literal : IsInlined column condition)
      (rest : Numbered columns number filters conditions parameters) :
      Numbered columns number (filter :: filters) (condition :: conditions) parameters

/-- A filter beside the column that its name is resolved to. -/
def Resolves (columns : List Column) (filter : Filter) (resolved : DraftFilter × Column) : Prop :=
  resolved.1 = filter.toDraft ∧ findColumn columns filter.column = some resolved.2

theorem resolves_of_filterColumns {columns : List Column} {filters : List Filter}
    {resolved : List (DraftFilter × Column)}
    (found : filterColumns columns (filters.map Filter.toDraft) = .ok resolved) :
    List.Forall₂ (Resolves columns) filters resolved := by
  rw [filterColumns, mapM_eq_ok_iff, List.forall₂_map_left_iff] at found
  apply found.imp
  intro filter pair step
  obtain ⟨column, resolvedColumn, done⟩ := bind_eq_ok_iff.mp step
  rw [pure_eq_ok_iff] at done
  subst done
  exact ⟨rfl, (resolve_text_eq_ok_iff.mp resolvedColumn).1⟩

theorem numbered_of_filterConditions {columns : List Column} {filters : List Filter}
    {resolved : List (DraftFilter × Column)}
    (resolves : List.Forall₂ (Resolves columns) filters resolved) {number : Nat}
    {conditions : List Condition} {parameters : List Value}
    (made : filterConditions number resolved = .ok (conditions, parameters)) :
    Numbered columns number filters conditions parameters := by
  induction resolves generalizing number conditions parameters with
  | nil =>
      obtain ⟨rfl, rfl⟩ := Prod.mk.inj (Except.ok.inj made)
      exact .nil
  | @cons filter pair filters resolved resolve _ inductionHypothesis =>
      obtain ⟨draft, column⟩ := pair
      obtain ⟨rfl, found⟩ := resolve
      obtain ⟨⟨condition, parameter⟩, one, others⟩ := bind_eq_ok_iff.mp made
      obtain ⟨⟨restConditions, restParameters⟩, rest, done⟩ := bind_eq_ok_iff.mp others
      obtain ⟨rfl, rfl⟩ := Prod.mk.inj (pure_eq_ok_iff.mp done)
      by_cases parameterised : filter.parameterised = true
      · obtain ⟨rfl, rfl⟩ := Prod.mk.inj (filterCondition_passed parameterised one)
        exact .passed parameterised found (inductionHypothesis rest)
      · obtain ⟨literal, rfl⟩ := filterCondition_inlined parameterised one
        exact .inlined parameterised found literal (inductionHypothesis rest)

/-- Each condition is what its filter is under some number. -/
theorem forall₂_of_filterConditions {columns : List Column} {filters : List Filter}
    {resolved : List (DraftFilter × Column)}
    (resolves : List.Forall₂ (Resolves columns) filters resolved) {number : Nat}
    {conditions : List Condition} {parameters : List Value}
    (made : filterConditions number resolved = .ok (conditions, parameters)) :
    List.Forall₂ (fun filter condition => ∃ column number parameter,
      findColumn columns filter.column = some column ∧
        filterCondition number filter.toDraft column = .ok (condition, parameter))
      filters conditions := by
  induction resolves generalizing number conditions parameters with
  | nil =>
      obtain ⟨rfl, rfl⟩ := Prod.mk.inj (Except.ok.inj made)
      exact .nil
  | @cons filter pair filters resolved resolve _ inductionHypothesis =>
      obtain ⟨draft, column⟩ := pair
      obtain ⟨rfl, found⟩ := resolve
      obtain ⟨⟨condition, parameter⟩, one, others⟩ := bind_eq_ok_iff.mp made
      obtain ⟨⟨restConditions, restParameters⟩, rest, done⟩ := bind_eq_ok_iff.mp others
      obtain ⟨rfl, rfl⟩ := Prod.mk.inj (pure_eq_ok_iff.mp done)
      exact .cons ⟨column, number, parameter, found, one⟩ (inductionHypothesis rest)

namespace Numbered

variable {columns : List Column} {number : Nat} {filters : List Filter}
  {conditions : List Condition} {parameters : List Value}

/-- The parameters are those of the parameterised filters, in order. -/
theorem parameters_eq (numbered : Numbered columns number filters conditions parameters) :
    parameters = (filters.filter Filter.parameterised).map Filter.argument := by
  induction numbered with
  | nil => rfl
  | passed parameterised _ _ inductionHypothesis =>
      rw [List.filter_cons_of_pos parameterised, List.map_cons, inductionHypothesis]
  | inlined parameterised _ _ _ inductionHypothesis =>
      rw [List.filter_cons_of_neg parameterised, inductionHypothesis]

/-- The placeholders are numbered without gaps, one for each parameter. -/
theorem numbers_eq (numbered : Numbered columns number filters conditions parameters) :
    conditions.flatMap Condition.numbers = List.range' number parameters.length := by
  induction numbered with
  | nil => rfl
  | @passed number filter _ column _ _ _ _ _ inductionHypothesis =>
      have own : (conjunct filter column number).numbers = [number] := by
        rw [conjunct]
        split <;> rfl
      rw [List.flatMap_cons, own, inductionHypothesis, List.length_cons, List.range'_succ]
      rfl
  | @inlined _ _ _ column condition _ _ _ _ literal _ inductionHypothesis =>
      have none : condition.numbers = [] := by
        unfold IsInlined at literal
        split at literal
        · rfl
        · rfl
        · contradiction
      rw [List.flatMap_cons, none, inductionHypothesis, List.nil_append]

/--
A parameterised filter is the conjunct under the placeholder whose number counts the
parameterised filters up to it.
-/
theorem conjunct_at (numbered : Numbered columns number filters conditions parameters)
    {before after : List Filter} {filter : Filter} (split : filters = before ++ filter :: after)
    (parameterised : filter.parameterised = true) :
    ∃ column, findColumn columns filter.column = some column ∧
      conditions[before.length]? = some (conjunct filter column
        (number + (before.filter Filter.parameterised).length)) := by
  induction numbered generalizing before with
  | nil => simp at split
  | @passed number first _ column _ _ firstPassed found _ inductionHypothesis =>
      rcases List.cons_eq_append_iff.mp split with ⟨rfl, here⟩ | ⟨before, rfl, there⟩
      · obtain ⟨rfl, _⟩ := List.cons.inj here
        exact ⟨column, found, rfl⟩
      · obtain ⟨other, otherFound, at_eq⟩ := inductionHypothesis there
        refine ⟨other, otherFound, ?_⟩
        rw [List.filter_cons_of_pos firstPassed, List.length_cons, List.length_cons,
          List.getElem?_cons_succ, at_eq, Nat.add_right_comm, Nat.add_assoc]
  | @inlined number first _ _ _ _ _ firstInlined _ _ _ inductionHypothesis =>
      rcases List.cons_eq_append_iff.mp split with ⟨rfl, here⟩ | ⟨before, rfl, there⟩
      · obtain ⟨rfl, _⟩ := List.cons.inj here
        exact absurd parameterised firstInlined
      · obtain ⟨other, otherFound, at_eq⟩ := inductionHypothesis there
        refine ⟨other, otherFound, ?_⟩
        rw [List.filter_cons_of_neg firstInlined, List.length_cons, List.getElem?_cons_succ,
          at_eq]

end Numbered

end Query

end RideQuery
