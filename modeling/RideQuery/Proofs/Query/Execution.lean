import RideQuery.Proofs.Database.Execution
import RideQuery.Proofs.Query.Binding

/-!
# Execution of queries

A query that was built is executed as it was bound.  Its placeholders are numbered from 1
in the order of the parameterised filters, and the one call that a database gets binds the
name of each number to the value of its filter.
-/

namespace RideQuery.Query

open RideQuery.Text RideQuery.Number RideQuery.Schema RideQuery.Sql RideQuery.Database

variable {columns : List Column}

/-! ## Finished queries -/

/-- A text that was checked has as many different placeholders as there are parameters. -/
theorem checkText_eq_ok_iff {wellFormed : List Char → Bool} {text : List Char}
    {parameters : List Value} :
    checkText wellFormed text parameters = .ok () ↔
      (∃ numbers, placeholders text = .ok numbers ∧
        numbers.eraseDups.length = parameters.length) ∧
        wellFormed (withoutPlaceholders text) = true := by
  rw [checkText, placeholderCount]
  cases placeholders text with
  | error failure => simp [numeric, Except.mapError]
  | ok numbers =>
      change (if numbers.eraseDups.length ≠ parameters.length then
        refuse .placeholderMismatch
        else if !wellFormed (withoutPlaceholders text) then refuse .illFormed
        else pure ()) = .ok () ↔ _
      split
      · simp_all [refuse_ne_ok]
      · split
        · simp_all [refuse_ne_ok]
        · simp_all

theorem exists_bound_of_buildWith {wellFormed : List Char → Bool} {draft : Draft}
    {generated : Generated} (built : buildWith wellFormed draft columns = .ok generated) :
    ∃ bound, bind draft columns = .ok bound ∧
      checkText wellFormed bound.statement.text bound.parameters = .ok () ∧
      generated.statement = bound.statement ∧ generated.parameters = bound.parameters := by
  obtain ⟨bound, bindStep, rest⟩ := bind_eq_ok_iff.mp built
  obtain ⟨_, checked, rest⟩ := bind_eq_ok_iff.mp rest
  obtain ⟨explanation, _, done⟩ := bind_eq_ok_iff.mp rest
  obtain rfl := pure_eq_ok_iff.mp done
  exact ⟨bound, bindStep, checked, rfl, rfl⟩

/-- A bound statement shows the placeholders from 1 on, one for each parameter. -/
theorem placeholderDigits_of_bind {intent : Intent} {bound : Bound}
    (plain : HasPlainNames columns) (bindStep : bind intent.toDraft columns = .ok bound) :
    placeholderDigits bound.statement.text =
      (List.range' 1 bound.parameters.length).map numeral := by
  obtain ⟨layout, conditions, dates, isOf, numbered, dated, own⟩ :=
    Layout.exists_of_bind bindStep
  have statementPlain : bound.statement.IsPlain := own ▸ isOf.isPlain numbered dated plain
  rw [statementPlain.shows_text.digits_eq, own, numbers_statement layout numbered dated]

/-- The parameters of a query are the values of the parameterised filters, in order. -/
theorem parameters_of_buildWith {wellFormed : List Char → Bool} {intent : Intent}
    {generated : Generated} (built : buildWith wellFormed intent.toDraft columns = .ok generated) :
    generated.parameters =
      (intent.filters.filter Filter.parameterised).map Filter.argument := by
  obtain ⟨bound, bindStep, _, _, parameters_eq⟩ := exists_bound_of_buildWith built
  obtain ⟨_, _, _, _, numbered, _⟩ := Layout.exists_of_bind bindStep
  rw [parameters_eq]
  exact numbered.parameters_eq

/-! ## From an intent to a call -/

/--
A query that is built from an intent shows the placeholders from 1 on, one for each
parameter; the parameters are the values of the parameterised filters; and each of those
filters is the condition that holds the placeholder of its own parameter.  Executing the
query without a limit makes exactly one call, whose text is that of the query with the
placeholders named, and whose names stand for the parameters.
-/
theorem execute_generated {wellFormed : List Char → Bool} {intent : Intent}
    {generated : Generated} (engine : Engine) (plain : HasPlainNames columns)
    (built : buildWith wellFormed intent.toDraft columns = .ok generated) :
    placeholders generated.sql.toList =
        .ok (List.range' 1 generated.parameters.length) ∧
      generated.parameters =
        (intent.filters.filter Filter.parameterised).map Filter.argument ∧
      (∀ before filter after, intent.filters = before ++ filter :: after →
        filter.parameterised = true →
        ∃ column, findColumn columns filter.column = some column ∧
          generated.statement.conditions[before.length]? =
            some (conjunct filter column
              (1 + (before.filter Filter.parameterised).length)) ∧
          generated.parameters[(before.filter Filter.parameterised).length]? =
            some filter.argument) ∧
      ∃ first rest, rest.length = generated.parameters.length ∧
        generated.sql = String.ofList (interleaved numberMark 1 first rest) ∧
        execute engine none generated.sql generated.parameters =
          { result := rowsOf (settle (engine (namedCall first rest generated.parameters)))
            calls := [namedCall first rest generated.parameters] } := by
  obtain ⟨bound, bindStep, checked, statement_eq, parameters_eq⟩ :=
    exists_bound_of_buildWith built
  have digits := placeholderDigits_of_bind plain bindStep
  obtain ⟨layout, conditions, dates, isOf, numbered, dated, own⟩ :=
    Layout.exists_of_bind bindStep
  rw [← statement_eq] at own checked digits
  rw [← parameters_eq] at checked numbered digits
  have statementPlain : generated.statement.IsPlain :=
    own ▸ isOf.isPlain numbered dated plain
  obtain ⟨⟨numbers, read, _⟩, _⟩ := checkText_eq_ok_iff.mp checked
  obtain ⟨rfl, short⟩ := (placeholders_eq_ok_iff digits).mp read
  have arguments := parameters_of_buildWith built
  obtain ⟨left, selects⟩ := generated.statement.exists_text_eq
  refine ⟨?_, arguments, ?_, ?_⟩
  · rw [Generated.sql, String.toList_ofList]
    exact read
  · intro before filter after split parameterised
    obtain ⟨column, found, here⟩ := numbered.conjunct_at split parameterised
    refine ⟨column, found, ?_, ?_⟩
    · obtain ⟨inside, _⟩ := List.getElem?_eq_some_iff.mp here
      rw [own, Layout.statement, List.getElem?_append_left inside, here]
    · rw [arguments, split, List.filter_append, List.filter_cons_of_pos parameterised,
        List.map_append, List.map_cons, List.getElem?_append_right (by simp)]
      simp
  · obtain ⟨first, rest, length, segments, executed⟩ :=
      execute_of_numbered engine digits short selects statementPlain.firm_text
    refine ⟨first, rest, length, ?_, executed⟩
    rw [Generated.sql, segments]

/-- A count of the trips that start at some stations, one of which is asked for by a pattern. -/
def sampleIntent : Intent :=
  { filters :=
      [{ column := "station_name", operator := .like, value := .text "%Pier%" },
        { column := "distance_km", operator := .less, value := .int 5, parameterised := false },
        { column := "station_name", operator := .isIn, value := .texts ["Pier 1", "Pier 2"] }] }

theorem execute_generated_sample :
    HasPlainNames sampleColumns ∧
      ∃ generated, buildWith (fun _ => true) sampleIntent.toDraft sampleColumns = .ok generated ∧
        placeholders generated.sql.toList = .ok [1, 2] ∧
        (execute (fun _ => .ok { columns := [], rows := [] }) none generated.sql
          generated.parameters).calls.length = 1 := by
  obtain ⟨generated, built⟩ : ∃ generated,
      buildWith (fun _ => true) sampleIntent.toDraft sampleColumns = .ok generated :=
    exists_eq_ok_of_isOk (by decide +kernel)
  obtain ⟨shown, parameters, _, first, rest, _, _, executed⟩ :=
    execute_generated (fun _ => .ok { columns := [], rows := [] }) hasPlainNames_sampleColumns built
  refine ⟨hasPlainNames_sampleColumns, generated, built, ?_, by rw [executed]; rfl⟩
  rw [shown, parameters]
  rfl

end RideQuery.Query
