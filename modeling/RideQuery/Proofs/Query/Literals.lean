import RideQuery.Proofs.Number.Display
import RideQuery.Proofs.Query.Refusal
import RideQuery.Proofs.Query.Scope

/-!
# Filters that are written out

A filter that takes no parameter is written into the statement.  Its value has to be a number,
and an integer or a finite number becomes a numeral that stands for it.  Numbers of double
precision that are not finite pass as well, though no numeral stands for them, and so does a
membership in a list of nothing.
-/

namespace RideQuery

open RideQuery.Number RideQuery.Schema

/-! ## Values -/

/--
The texts that values are written out as.  The numeral of an integer has its value, and that of
a finite number is read back as the number; every other number is written as its name.
-/
inductive FilterValue.IsWrittenAs : FilterValue → List Char → Prop
  | int {n : ℤ} {numeral : DecimalNumeral} (value : numeral.value = n) :
      IsWrittenAs (.int n) numeral.text
  | finite {negative : Bool} {significand : ℕ} {exponent : ℤ} {numeral : DecimalNumeral}
      (reads : (Binary64.finite negative significand exponent).IsCanonical →
        Binary64.read? numeral.text = some (.finite negative significand exponent)) :
      IsWrittenAs (.float (.finite negative significand exponent)) numeral.text
  | nan : IsWrittenAs (.float .nan) "nan".toList
  | infinity (negative : Bool) :
      IsWrittenAs (.float (.infinity negative)) (withSign negative "inf".toList)

/-- The texts that a filter on a column is written out as. -/
inductive Filter.WritesOut (filter : Filter) (column : Column) : List Char → Prop
  | compare (operator : filter.operator ≠ .isIn) {literal : List Char}
      (written : filter.value.IsWrittenAs literal) :
      WritesOut filter column ((Query.Reference.ofColumn column).text ++
        ' ' :: (Worded.wording filter.operator).toList ++ ' ' :: literal)
  | nothing (operator : filter.operator = .isIn) (empty : filter.value = .texts []) :
      WritesOut filter column ((Query.Reference.ofColumn column).text ++ " IN ()".toList)

namespace Query

variable {columns : List Column} {intent : Intent}

theorem isWrittenAs_of_numberLiteral {value : FilterValue} {literal : List Char}
    (written : numberLiteral value.toValue = .ok literal) : value.IsWrittenAs literal := by
  cases value with
  | int n =>
      obtain ⟨text, fits, done⟩ := bind_eq_ok_iff.mp written
      rw [numeric_eq_ok_iff, writeInteger] at fits
      obtain rfl := pure_eq_ok_iff.mp done
      split at fits
      · obtain rfl := Except.ok.inj fits
        rw [← DecimalNumeral.text_ofInt]
        exact .int (DecimalNumeral.value_ofInt n)
      · contradiction
  | float x =>
      obtain rfl := Except.ok.inj written
      cases x with
      | nan => exact .nan
      | infinity negative => exact .infinity negative
      | finite negative significand exponent =>
          obtain ⟨numeral, own, reads⟩ :=
            exists_numeral_textWith plainNames negative significand exponent
          rw [← own]
          exact .finite reads
  | text s => exact absurd written bind_refuse_ne_ok
  | texts members => exact absurd written bind_refuse_ne_ok

/-! ## Filters -/

theorem text_oneOf_nil (target : Reference) :
    (Condition.oneOf target []).text = target.text ++ " IN ()".toList := by
  have brackets : " IN (".toList ++ (listed [] ++ ")".toList) = " IN ()".toList := by decide
  rw [← brackets]
  simp only [← List.append_assoc]
  rfl

/-- What a filter without a parameter is written out as. -/
theorem writesOut_of_filterCondition {filter : Filter} (inlined : filter.parameterised = false)
    {number : Nat} {column : Column} {condition : Condition} {parameter : Option Value}
    (made : filterCondition number filter.toDraft column = .ok (condition, parameter)) :
    filter.WritesOut column condition.text := by
  have expressible := exists_filterCondition_iff.mp ⟨_, made⟩
  by_cases operator : filter.operator = .isIn
  · rw [Filter.IsExpressible, if_pos operator] at expressible
    obtain ⟨members, value, fine⟩ := expressible
    obtain rfl : members = [] := fine.resolve_left (by simp [inlined])
    have argument : filter.argument = .list [] := by
      rw [Filter.argument, value]
      rfl
    rw [filterCondition_isIn operator, argument, inlined] at made
    obtain ⟨rfl, rfl⟩ := Prod.mk.inj (Except.ok.inj made)
    change filter.WritesOut column (Condition.oneOf (.ofColumn column) []).text
    rw [text_oneOf_nil]
    exact .nothing operator value
  · rw [filterCondition_of_ne_isIn operator, inlined, if_neg Bool.false_ne_true] at made
    obtain ⟨literal, written, done⟩ := bind_eq_ok_iff.mp made
    obtain ⟨rfl, rfl⟩ := Prod.mk.inj (pure_eq_ok_iff.mp done)
    exact .compare operator (isWrittenAs_of_numberLiteral written)

/-! ## Queries -/

theorem not_exists_bind_of_not_isExpressible {filter : Filter} (member : filter ∈ intent.filters)
    (other : ¬filter.IsExpressible) : ¬∃ bound, bind intent.toDraft columns = .ok bound := by
  rintro ⟨bound, bindStep⟩
  obtain ⟨layout, laidOut, completed⟩ := exists_layout_of_bind bindStep
  obtain ⟨conditions, _, filtered, _⟩ := Layout.exists_of_complete completed
  have isOf := Layout.of_layOut laidOut
  exact other ((exists_filterConditions_iff isOf.filters).mp ⟨_, filtered⟩ filter member)

/--
Each filter without a parameter stands in the statement as its column, its operator and the
text that its value is written out as.  If the value of such a filter cannot be written out,
the intent is refused, unless an integer with too many digits comes first.
-/
theorem writesOut_of_buildWith {wellFormed : List Char → Bool} :
    (∀ generated, buildWith wellFormed intent.toDraft columns = .ok generated →
      ∃ conditions dates, generated.statement.conditions = conditions ++ dates ∧
        List.Forall₂ (fun filter condition => filter.parameterised = false →
          ∃ column, findColumn columns filter.column = some column ∧
            filter.WritesOut column condition.text ∧
            condition.text <:+: generated.sql.toList) intent.filters conditions) ∧
    ∀ filter ∈ intent.filters, filter.parameterised = false → ¬filter.IsExpressible →
      ¬FirstFault Filter.IsExpressible Filter.IsOverlong intent.filters →
      ∃ error, buildWith wellFormed intent.toDraft columns = .error (.refused error) := by
  constructor
  · intro generated built
    obtain ⟨bound, bindStep, _, own, _⟩ := exists_bound_of_buildWith built
    obtain ⟨layout, laidOut, completed⟩ := exists_layout_of_bind bindStep
    obtain ⟨conditions, dates, filtered, _, statement⟩ := Layout.exists_of_complete completed
    have isOf := Layout.of_layOut laidOut
    have split : generated.statement.conditions = conditions ++ dates := by
      rw [own, statement]
      rfl
    refine ⟨conditions, dates, split, ?_⟩
    apply forall₂_of_mem (forall₂_of_filterConditions isOf.filters filtered)
    rintro filter _ condition inside ⟨column, number, parameter, found, made⟩ inlined
    refine ⟨column, found, writesOut_of_filterCondition inlined made, ?_⟩
    rw [Generated.sql, String.toList_ofList]
    apply Statement.condition_infix_text
    rw [split]
    exact List.mem_append_left dates inside
  · intro filter member _ other first
    cases bindStep : bind intent.toDraft columns with
    | ok bound =>
        exact absurd ⟨bound, bindStep⟩ (not_exists_bind_of_not_isExpressible member other)
    | error failure =>
        have failed : buildWith wellFormed intent.toDraft columns = .error failure := by
          rw [buildWith, bindStep]
          rfl
        cases failure with
        | refused error => exact ⟨error, failed⟩
        | number error =>
            obtain ⟨layout, _, overlong | ⟨expressible, _⟩⟩ :=
              stopsAtNumber_bind_toDraft_iff.mp ⟨error, bindStep⟩
            · exact absurd overlong first
            · exact absurd (expressible filter member) other

/-- A filter on distances that is written out. -/
def distanceFilter (operator : Operator) (value : FilterValue) : Filter :=
  { column := "distance_km", operator, value, parameterised := false }

/-- A count of the trips that are longer than a tenth of a kilometre, but not five long. -/
def measuredIntent : Intent :=
  { filters :=
      [distanceFilter .greater (.float (.finite false 7205759403792794 (-56))),
        distanceFilter .notEqual (.int 5)] }

/-- Both of its filters are written out. -/
theorem writesOut_of_buildWith_measured :
    ∃ generated, buildWith Sql.Grammar.accepts measuredIntent.toDraft sampleColumns =
        .ok generated ∧
      ∃ conditions dates, generated.statement.conditions = conditions ++ dates ∧
        List.Forall₂ (fun filter condition => filter.parameterised = false →
          ∃ column, findColumn sampleColumns filter.column = some column ∧
            filter.WritesOut column condition.text ∧
            condition.text <:+: generated.sql.toList) measuredIntent.filters conditions := by
  obtain ⟨generated, built⟩ : ∃ generated,
      buildWith Sql.Grammar.accepts measuredIntent.toDraft sampleColumns = .ok generated :=
    exists_eq_ok_of_isOk (by decide +kernel)
  exact ⟨generated, built, writesOut_of_buildWith.1 generated built⟩

/-- Comparisons with what is not finite, and a membership in a list of nothing. -/
def unmeasuredIntent : Intent :=
  { filters :=
      [distanceFilter .greater (.float .nan), distanceFilter .less (.float (.infinity false)),
        distanceFilter .isIn (.texts [])] }

/-- They are written out, too, but not as numerals. -/
theorem text_ne_unmeasured :
    (buildWith Sql.Grammar.accepts unmeasuredIntent.toDraft sampleColumns).map Generated.sql =
        .ok ("SELECT COUNT(*) AS total_count FROM trips t WHERE t.distance_km > nan " ++
          "AND t.distance_km < inf AND t.distance_km IN ()") ∧
      ∀ numeral : DecimalNumeral,
        numeral.text ≠ "nan".toList ∧ numeral.text ≠ "inf".toList := by
  refine ⟨by decide +kernel, fun numeral => ⟨?_, ?_⟩⟩
  · exact numeral.text_ne (by decide)
  · exact numeral.text_ne (by decide)

end Query

end RideQuery
