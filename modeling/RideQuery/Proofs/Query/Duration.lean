import RideQuery.Proofs.Query.Outputs
import RideQuery.Proofs.Schema.Profile

/-!
# Durations

An average of ride times is taken between the start and the end of a trip, and each of the
two is found by a search of its own.  Nothing compares what the searches find: a moment
whose name holds both markers, as `vendor_start_at` does, can be both sides of a trip.
-/

namespace RideQuery.Query

open RideQuery.Schema

variable {columns : List Column} {intent : Intent}

/-- The average of ride times between two columns of the trips, as a statement selects it. -/
def averageOutput (last first : String) : Output :=
  { expression := .averageMinutes (.fact last) (.fact first), label := some averageLabel }

/-- The text of such an average. -/
def averageText (last first : String) : List Char :=
  "AVG(EXTRACT(EPOCH FROM (t.".toList ++ (last.toList ++ (" - t.".toList ++
    (first.toList ++ "))/60) AS average_minutes".toList)))

theorem text_averageOutput (last first : String) :
    (averageOutput last first).text = averageText last first := by
  unfold averageOutput averageText Output.text Expression.text Reference.text Reference.fact
  simp only [List.append_assoc, List.cons_append]
  rfl

/-- An average of ride times needs the first start and the first end in the catalog. -/
theorem exists_averageOutput {output : Output} (aggregate : IsAggregate columns .avg output) :
    ∃ first last, IsFirst (IsMoment "start") columns first ∧
      IsFirst (IsMoment "end") columns last ∧ output = averageOutput last.name first.name := by
  cases aggregate with
  | @average start finish first last =>
      exact ⟨start, finish, factColumn_eq_some_iff.mp first, factColumn_eq_some_iff.mp last, rfl⟩

/--
An average of ride times is taken between the first end and the first start in the catalog.
They are one column exactly if the first moment of either side is marked as both.
-/
theorem last_eq_first_iff_of_buildWith {wellFormed : List Char → Bool} {generated : Generated}
    (average : intent.aggregation = .avg)
    (built : buildWith wellFormed intent.toDraft columns = .ok generated) :
    ∃ first last,
      IsFirst (IsMoment "start") columns first ∧ IsFirst (IsMoment "end") columns last ∧
      generated.statement.outputs.getLast? = some (averageOutput last.name first.name) ∧
      averageText last.name first.name <:+: generated.sql.toList ∧
      (last.name = first.name ↔ HasTwofoldMoment columns) := by
  obtain ⟨groups, aggregate, _, isAggregate, outputs⟩ := exists_outputs_of_buildWith built
  rw [average] at isAggregate
  obtain ⟨first, last, isStart, isEnd, rfl⟩ := exists_averageOutput isAggregate
  have selected : averageOutput last.name first.name ∈ generated.statement.outputs := by
    rw [outputs]
    exact List.mem_append_right _ (List.mem_singleton_self _)
  refine ⟨first, last, isStart, isEnd, ?_, ?_, name_eq_iff_hasTwofoldMoment isStart isEnd⟩
  · rw [outputs, List.getLast?_concat]
  · rw [← text_averageOutput, Generated.sql, String.toList_ofList]
    exact Statement.output_infix_text selected

/-- An average of all ride times. -/
def averageIntent : Intent :=
  { aggregation := .avg }

/-- A moment of the trips. -/
def momentColumn (name : String) : Column :=
  { table := factTable, name, dataType := some "timestamp", nullable := true }

/-- The start and the end of trips, and behind them a moment that is marked as both. -/
def weekendColumns : List Column :=
  [momentColumn "started_at", momentColumn "ended_at", momentColumn "weekend_start"]

theorem last_eq_first_iff_of_buildWith_weekend :
    averageIntent.aggregation = .avg ∧
      ∃ generated, buildWith (fun _ => true) averageIntent.toDraft weekendColumns =
          .ok generated ∧
        ∃ first last, IsFirst (IsMoment "start") weekendColumns first ∧
          IsFirst (IsMoment "end") weekendColumns last ∧
          generated.statement.outputs.getLast? = some (averageOutput last.name first.name) ∧
          last.name ≠ first.name := by
  obtain ⟨generated, built⟩ : ∃ generated,
      buildWith (fun _ => true) averageIntent.toDraft weekendColumns = .ok generated :=
    exists_eq_ok_of_isOk (by decide +kernel)
  obtain ⟨first, last, isStart, isEnd, output, _, same⟩ :=
    last_eq_first_iff_of_buildWith rfl built
  refine ⟨rfl, generated, built, first, last, isStart, isEnd, output, ?_⟩
  rw [Ne, same]
  rintro ⟨column, isEither, start, finish⟩
  have started : startColumn weekendColumns = some (momentColumn "started_at") := by
    decide +kernel
  obtain rfl := (isEither.narrow (fun _ => Or.inl) start).unique
    (factColumn_eq_some_iff.mp started)
  have unmarked : ¬"end".toList <:+: (momentColumn "started_at").lowerName := by decide +kernel
  exact unmarked finish.name

/-- The start and the end of trips, in names that both hold the marker of an end. -/
def vendorColumns : List Column :=
  [momentColumn "vendor_start_at", momentColumn "vendor_end_at"]

/-- An average that is taken between the start of the trips and itself. -/
theorem averages_nothing_vendor :
    averageIntent.aggregation = .avg ∧
      ∃ generated, buildWith Sql.Grammar.accepts averageIntent.toDraft vendorColumns =
          .ok generated ∧
        generated.sql = "SELECT AVG(EXTRACT(EPOCH FROM (t.vendor_start_at - " ++
          "t.vendor_start_at))/60) AS average_minutes FROM trips t" ∧
        generated.statement.outputs = [averageOutput "vendor_start_at" "vendor_start_at"] := by
  have computed : (buildWith Sql.Grammar.accepts averageIntent.toDraft vendorColumns).map
      Generated.statement = .ok
        { outputs := [averageOutput "vendor_start_at" "vendor_start_at"], joins := [],
          conditions := [], groupBy := [], topOnly := false } := by decide +kernel
  obtain ⟨generated, built, own⟩ := map_eq_ok_iff.mp computed
  refine ⟨rfl, generated, built, ?_, ?_⟩
  · rw [Generated.sql, own]
    decide +kernel
  · rw [own]

end RideQuery.Query
