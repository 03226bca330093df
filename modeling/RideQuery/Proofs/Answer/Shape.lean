import RideQuery.Proofs.Answer.Amount
import RideQuery.Proofs.Dictionary
import RideQuery.Proofs.Query.Outputs

/-!
# Answers keep their aggregates

A row of a result holds the values of a SELECT list under the names of its members.  The answer
is shaped by the first label that is found in the row, and no question tells which aggregate it
asked for.  Still the aggregate is kept: averages and distances are looked for before stations,
and counts, which are looked for after them, come without groups.
-/

namespace RideQuery.Answer

open RideQuery.Number RideQuery.Schema RideQuery.Question RideQuery.Query

variable {outputs : List Output} {values : List Value} {row : Dict} {name : String}

/-! ## Rows -/

/--
Rows that hold the values of a SELECT list under the names of its members, the last value under
a name that is repeated.
-/
structure IsRowOf (outputs : List Output) (values : List Value) (row : Dict) : Prop where
  length_eq : values.length = outputs.length
  lookup?_eq (name : String) : Value.lookup? row name =
    ((outputs.zip values).reverse.find? fun member => member.1.name? == some name).map Prod.snd

theorem lastUnder_map {α : Type} (members : List (α × Value)) (key : α → Option String) :
    ((members.map (Prod.map key id)).reverse.find? fun member => member.1 == some name).map
        Prod.snd =
      (members.reverse.find? fun member => key member.1 == some name).map Prod.snd := by
  rw [← List.map_reverse, List.find?_map, Option.map_map]
  rfl

/-- The values, written one after the other under the names, make such a row. -/
theorem isRowOf_ofEntries {names : List String} (length_eq : values.length = outputs.length)
    (named : outputs.map Output.name? = names.map some) :
    IsRowOf outputs values
      (Value.ofEntries ((names.zip values).map fun entry => (.text entry.1, entry.2))) where
  length_eq := length_eq
  lookup?_eq := by
    intro name
    have same : (outputs.zip values).map (Prod.map Output.name? id) =
        (names.zip values).map (Prod.map some id) := by
      rw [← List.zip_map_left, named, List.zip_map_left]
    rw [Value.lookup?_ofEntries, ← lastUnder_map _ Output.name?, same, lastUnder_map]
    rfl

namespace IsRowOf

theorem lookup?_eq_none (held : IsRowOf outputs values row)
    (absent : ∀ output ∈ outputs, output.name? ≠ some name) : Value.lookup? row name = none := by
  rw [held.lookup?_eq, Option.map_eq_none_iff, List.find?_eq_none]
  rintro ⟨output, value⟩ member
  rw [List.mem_reverse] at member
  exact fun found => absent output (List.of_mem_zip member).1 (beq_iff_eq.mp found)

theorem lookup?_last {front : List Output} {output : Output} {value : Value}
    (held : IsRowOf (front ++ [output]) values row) (named : output.name? = some name)
    (last : values.getLast? = some value) : Value.lookup? row name = some value := by
  obtain ⟨others, rfl⟩ := List.getLast?_eq_some_iff.mp last
  have length_eq : front.length = others.length := by
    simpa using held.length_eq.symm
  rw [held.lookup?_eq, List.zip_append length_eq, List.reverse_append]
  simp [named]

end IsRowOf

/-! ## Shapes -/

/-- A row is shaped by the first label that is in it. -/
theorem ofRows_of_first {before after : List Shape} {shape : Shape} {value : Value}
    (order : Shape.all = before ++ shape :: after)
    (absent : ∀ earlier ∈ before, Value.lookup? row earlier.label = none)
    (under : Value.lookup? row shape.label = some value) :
    ofRows [row] = shape.apply value row := by
  have found : Shape.find? row = some (shape, value) := by
    rw [Shape.find?, order, List.findSome?_append, List.findSome?_eq_none_iff.mpr]
    · rw [Option.none_or, List.findSome?_cons, under]
      rfl
    · intro earlier member
      rw [absent earlier member, Option.map_none]
  rw [ofRows, found]

theorem ofRows_of_none (absent : ∀ shape : Shape, Value.lookup? row shape.label = none) :
    ofRows [row] = .ok (rawRows [row]) := by
  have none : Shape.find? row = none := by
    rw [Shape.find?, List.findSome?_eq_none_iff]
    intro shape _
    rw [absent shape, Option.map_none]
  rw [ofRows, none]

/-! ## Noughts -/

theorem value_of_isZero {x : Binary64} (isZero : x.isZero = true) : x.value = 0 := by
  unfold Binary64.isZero at isZero
  split at isZero
  · rw [Binary64.value_finite, Nat.cast_zero, zero_mul, neg_zero, ite_self]
  · contradiction

theorem value_orZero (x : Binary64) : (Shape.orZero (some x)).value = x.value := by
  rw [Shape.orZero]
  split
  · rename_i isZero
    rw [value_of_isZero isZero]
    exact Binary64.value_zero false
  · rfl

theorem representable_orZero {x : Binary64} (representable : x.IsRepresentable) :
    (Shape.orZero (some x)).IsRepresentable := by
  rw [Shape.orZero]
  split
  · exact Binary64.representable_zero false
  · exact representable

/-! ## Kept aggregates -/

/--
Answers that keep the aggregate of a row, which is a value and what it stands for.  A number is
taken as the closest one of double precision before it is rounded.
-/
inductive Keeps (row : Dict) (value : Value) : Aggregation → Option ℚ → Value → Prop
  /-- There is no average of no trips. -/
  | noAverage {entries : Dict} (kept : Value.lookup? entries averageLabel = some .null) :
      Keeps row value .avg none (.dict entries)
  | average {q : ℚ} {x : Binary64} {minutes : ℤ} {entries : Dict}
      (closest : Binary64.IsClosest q x) (nearest : IsNearest x.value minutes)
      (kept : Value.lookup? entries averageLabel = some (.int minutes)) :
      Keeps row value .avg (some q) (.dict entries)
  /-- No trips have a length of nought. -/
  | noDistance {entries : Dict} (kept : Value.lookup? entries distanceLabel = some (.float 0)) :
      Keeps row value .sum none (.dict entries)
  | distance {q : ℚ} {x kilometres : Binary64} {tenths : ℤ} {entries : Dict}
      (closest : Binary64.IsClosest q x) (nearest : IsNearest (10 * x.value) tenths)
      (rounded : Binary64.IsClosest ((tenths : ℚ) / 10) kilometres)
      (kept : Value.lookup? entries distanceLabel = some (.float kilometres)) :
      Keeps row value .sum (some q) (.dict entries)
  | count {q? : Option ℚ} {entries : Dict}
      (kept : Value.lookup? entries countLabel = some value) :
      Keeps row value .count q? (.dict entries)
  | least {q? : Option ℚ} {entries : Dict}
      (kept : Value.lookup? entries countLabel = some value) :
      Keeps row value .min q? (.dict entries)
  /-- The departures from the station that a row is about. -/
  | station {q? : Option ℚ} {entries : Dict}
      (kept : Value.lookup? entries departuresLabel = some value) :
      Keeps row value .max q? (.dict entries)
  /-- The row itself, if it is not about a station. -/
  | ranked {q? : Option ℚ} (kept : Value.lookup? row departuresLabel = some value) :
      Keeps row value .max q? (rawRows [row])

/-! ## Kept by their shapes -/

theorem lookup?_shown (label : String) (value text : Value) :
    Value.lookup? [(.text label, value), (.text Shape.shownKey, text)] label = some value := by
  simp [Value.lookup?, Value.sameKey_text]

theorem ofAverage_of_number? {value : Value} {x : Binary64} {minutes : ℤ}
    (read : number? value = .ok (some x)) (rounded : x.round = .ok minutes) :
    Shape.ofAverage value = .ok (Shape.shown averageLabel (.int minutes)
      (.text (integerText minutes ++ " minutes"))) := by
  rw [Shape.ofAverage, read]
  change (x.round >>= _) = _
  rw [rounded]
  rfl

theorem ofDistance_of_number? {value : Value} {x? : Option Binary64}
    (read : number? value = .ok x?) :
    Shape.ofDistance value = .ok (Shape.shown distanceLabel
      (.float (Shape.orZero x?).roundToTenth)
      (.text (String.ofList ((Shape.orZero x?).roundToTenth.fixed 1) ++ " km"))) := by
  rw [Shape.ofDistance, read]
  rfl

theorem ofCount_of_plain {value : Value} {text : String} (shown : value.plain = .ok text) :
    Shape.ofCount value = .ok (Shape.shown countLabel value (.text text)) := by
  rw [Shape.ofCount, shown]
  rfl

section Amounts

variable {value : Value} {q? : Option ℚ}

theorem exists_average (amount : IsAmount value q?)
    (under : Value.lookup? row averageLabel = some value) :
    ∃ answer, ofRows [row] = .ok answer ∧ Keeps row value .avg q? answer := by
  have order : Shape.all = [] ++ .average :: [.distance, .station, .count] := rfl
  have shaped : ofRows [row] = Shape.ofAverage value :=
    ofRows_of_first order (List.forall_mem_nil _) under
  rw [shaped]
  cases amount with
  | null => exact ⟨_, rfl, .noAverage (lookup?_shown ..)⟩
  | number denotes inRange =>
      obtain ⟨x, read, closest⟩ := denotes.exists_number? inRange
      obtain ⟨minutes, rounded, nearest⟩ := closest.representable.exists_round
      exact ⟨_, ofAverage_of_number? read rounded, .average closest nearest (lookup?_shown ..)⟩

theorem exists_distance (amount : IsAmount value q?)
    (noAverage : Value.lookup? row averageLabel = none)
    (under : Value.lookup? row distanceLabel = some value) :
    ∃ answer, ofRows [row] = .ok answer ∧ Keeps row value .sum q? answer := by
  have order : Shape.all = [.average] ++ .distance :: [.station, .count] := rfl
  have shaped : ofRows [row] = Shape.ofDistance value :=
    ofRows_of_first order (List.forall_mem_singleton.mpr noAverage) under
  rw [shaped]
  cases amount with
  | null =>
      have nought : (Shape.orZero none).roundToTenth = 0 := by decide +kernel
      refine ⟨_, ofDistance_of_number? rfl, .noDistance ?_⟩
      rw [lookup?_shown, nought]
  | number denotes inRange =>
      obtain ⟨x, read, closest⟩ := denotes.exists_number? inRange
      obtain ⟨tenths, nearest, rounded⟩ :=
        (representable_orZero closest.representable).exists_tenths
      rw [value_orZero] at nearest
      exact ⟨_, ofDistance_of_number? read,
        .distance closest nearest rounded (lookup?_shown ..)⟩

theorem exists_count (amount : IsAmount value q?)
    (others : ∀ shape ∈ [Shape.average, .distance, .station],
      Value.lookup? row shape.label = none)
    (under : Value.lookup? row countLabel = some value) :
    ∃ entries, ofRows [row] = .ok (.dict entries) ∧
      Value.lookup? entries countLabel = some value := by
  have order : Shape.all = [.average, .distance, .station] ++ .count :: [] := rfl
  have shaped : ofRows [row] = Shape.ofCount value := ofRows_of_first order others under
  obtain ⟨text, shown⟩ := amount.exists_plain
  exact ⟨_, shaped.trans (ofCount_of_plain shown), lookup?_shown ..⟩

theorem exists_departures (q? : Option ℚ)
    (noAverage : Value.lookup? row averageLabel = none)
    (noDistance : Value.lookup? row distanceLabel = none)
    (noCount : Value.lookup? row countLabel = none)
    (under : Value.lookup? row departuresLabel = some value) :
    ∃ answer, ofRows [row] = .ok answer ∧ Keeps row value .max q? answer := by
  cases station : Value.lookup? row stationLabel with
  | none =>
      refine ⟨_, ofRows_of_none ?_, .ranked under⟩
      intro shape
      cases shape <;> assumption
  | some name =>
      have order : Shape.all = [.average, .distance] ++ .station :: [.count] := rfl
      have others : ∀ shape ∈ [Shape.average, .distance], Value.lookup? row shape.label = none :=
        List.forall_mem_cons.mpr ⟨noAverage, List.forall_mem_singleton.mpr noDistance⟩
      have shaped : ofRows [row] = .ok (Shape.ofStation name (some value)) := by
        rw [ofRows_of_first order others station, Shape.apply, under]
      refine ⟨_, shaped, .station ?_⟩
      simp [Value.lookup?, Value.sameKey_text, stationLabel, departuresLabel]

end Amounts

/-! ## Questions -/

section Queries

variable {columns : List Column} {intent : Intent} {wellFormed : List Char → Bool}
  {generated : Generated} {value : Value} {q? : Option ℚ}

theorem lookup?_aggregate
    (built : buildWith wellFormed intent.toDraft columns = .ok generated)
    (held : IsRowOf generated.statement.outputs values row)
    (last : values.getLast? = some value) :
    Value.lookup? row (aggregateName intent.aggregation) = some value := by
  obtain ⟨groups, aggregate, _, made, own⟩ := exists_outputs_of_buildWith built
  rw [own] at held
  exact held.lookup?_last made.name?_eq last

/-- A name that no column of the catalog goes by is that of a station or of the aggregate. -/
theorem lookup?_of_fresh (built : buildWith wellFormed intent.toDraft columns = .ok generated)
    (held : IsRowOf generated.statement.outputs values row)
    (fresh : ∀ column ∈ columns, column.name ≠ name) (notStation : stationLabel ≠ name)
    (notAggregate : aggregateName intent.aggregation ≠ name) :
    Value.lookup? row name = none := by
  obtain ⟨groups, aggregate, grouped, made, own⟩ := exists_outputs_of_buildWith built
  rw [own] at held
  refine held.lookup?_eq_none ?_
  intro output member
  rcases List.mem_append.mp member with inside | last
  · obtain ⟨column, chosen, rfl⟩ := List.mem_map.mp inside
    rcases name?_groupOutput intent.aggregation column with station | named
    · rw [station]
      exact fun same => notStation (Option.some.inj same)
    · rw [named]
      exact fun same =>
        fresh column (mem_of_groupColumns grouped column chosen) (Option.some.inj same)
  · obtain rfl := List.mem_singleton.mp last
    rw [made.name?_eq]
    exact fun same => notAggregate (Option.some.inj same)

/-- Without groups the aggregate is alone in the row. -/
theorem lookup?_of_ungrouped
    (built : buildWith wellFormed intent.toDraft columns = .ok generated)
    (held : IsRowOf generated.statement.outputs values row) (ungrouped : intent.groupBy = [])
    (unranked : intent.aggregation ≠ .max)
    (notAggregate : aggregateName intent.aggregation ≠ name) :
    Value.lookup? row name = none := by
  obtain ⟨groups, aggregate, grouped, made, own⟩ := exists_outputs_of_buildWith built
  have none : groups = [] := by
    rcases groupColumns_cases grouped with ⟨named, _⟩ | ⟨⟨_, ranked⟩, _⟩
    · rw [ungrouped] at named
      exact List.forall₂_nil_left_iff.mp named
    · exact absurd ranked unranked
  rw [own, none] at held
  refine held.lookup?_eq_none ?_
  intro output member
  obtain rfl := List.mem_singleton.mp member
  rw [made.name?_eq]
  exact fun same => notAggregate (Option.some.inj same)

/-- A plain count is kept, since no question asks for groups with it. -/
theorem exists_count_of_analyze {asked : Asked} {today : Calendar.Date}
    (analyzed : analyze asked columns today = .ok intent)
    (built : buildWith wellFormed intent.toDraft columns = .ok generated)
    (held : IsRowOf generated.statement.outputs values row)
    (last : values.getLast? = some value) (amount : IsAmount value q?)
    (counts : aggregateName intent.aggregation = countLabel) :
    ∃ entries, ofRows [row] = .ok (.dict entries) ∧
      Value.lookup? entries countLabel = some value := by
  have under := lookup?_aggregate built held last
  have ungrouped : intent.groupBy = [] := by
    by_contra grouped
    rcases aggregation_of_analyze analyzed grouped with own | own | own
    all_goals
      rw [own] at counts
      exact absurd counts (by decide)
  have unranked : intent.aggregation ≠ .max := by
    intro own
    rw [own] at counts
    exact absurd counts (by decide)
  have others : ∀ shape ∈ [Shape.average, .distance, .station],
      Value.lookup? row shape.label = none := by
    intro shape member
    refine lookup?_of_ungrouped built held ungrouped unranked ?_
    rw [counts]
    revert shape
    decide
  rw [counts] at under
  exact exists_count amount others under

/--
The answer to a question keeps the aggregate of the one row of its result, unless a column of the
catalog goes by the name of another aggregate.
-/
theorem exists_keeps_of_analyze {asked : Asked} {today : Calendar.Date}
    (fresh : ∀ column ∈ columns, column.name ∉ [averageLabel, distanceLabel, countLabel])
    (analyzed : analyze asked columns today = .ok intent)
    (built : buildWith wellFormed intent.toDraft columns = .ok generated)
    (held : IsRowOf generated.statement.outputs values row)
    (last : values.getLast? = some value) (amount : IsAmount value q?) :
    ∃ answer, ofRows [row] = .ok answer ∧ Keeps row value intent.aggregation q? answer := by
  have under := lookup?_aggregate built held last
  have freshOf : ∀ label ∈ [averageLabel, distanceLabel, countLabel],
      ∀ column ∈ columns, column.name ≠ label := by
    rintro label member column inside rfl
    exact fresh column inside member
  cases own : intent.aggregation with
  | avg =>
      rw [own] at under
      exact exists_average amount under
  | sum =>
      rw [own] at under
      have noAverage : Value.lookup? row averageLabel = none :=
        lookup?_of_fresh built held (freshOf averageLabel (by decide)) (by decide)
          (by rw [own]; decide)
      exact exists_distance amount noAverage under
  | max =>
      rw [own] at under
      have others : ∀ label ∈ [averageLabel, distanceLabel, countLabel],
          Value.lookup? row label = none := by
        intro label member
        refine lookup?_of_fresh built held (freshOf label member) ?_ ?_
        · rintro rfl
          exact absurd member (by decide)
        · rw [own]
          rintro rfl
          exact absurd member (by decide)
      exact exists_departures q? (others averageLabel (by decide)) (others distanceLabel (by decide))
        (others countLabel (by decide)) under
  | count =>
      obtain ⟨entries, answered, kept⟩ :=
        exists_count_of_analyze analyzed built held last amount (by rw [own, aggregateName])
      exact ⟨_, answered, .count kept⟩
  | min =>
      obtain ⟨entries, answered, kept⟩ :=
        exists_count_of_analyze analyzed built held last amount (by rw [own, aggregateName])
      exact ⟨_, answered, .least kept⟩

end Queries

/-- A question for an average that is broken down by stations. -/
def averageQuestion : Asked :=
  some "Which station is the most typical?"

/-- What is selected for it. -/
def averageOutputs : List Output :=
  [{ expression := .column { qualifier := "s", name := "station_name" }, label := none },
    { expression := .averageMinutes (.fact "ended_at") (.fact "started_at")
      label := some averageLabel }]

/-- Twelve and a half, as a database returns it. -/
def twelveAndHalf : Value :=
  .decimal (.finite false 125 (-1))

/-- The average is kept although there is a station in the row. -/
theorem exists_keeps_of_analyze_average :
    ∃ intent generated, analyze averageQuestion sampleColumns ⟨2025, 6, 15, by decide⟩ =
        .ok intent ∧
      buildWith (fun _ => true) intent.toDraft sampleColumns = .ok generated ∧
      generated.statement.outputs = averageOutputs ∧
      ∃ row answer, IsRowOf averageOutputs [.text "Pier 1", twelveAndHalf] row ∧
        ofRows [row] = .ok answer ∧ Keeps row twelveAndHalf .avg (some (25 / 2)) answer := by
  have computed : (analyze averageQuestion sampleColumns ⟨2025, 6, 15, by decide⟩).map
      (fun intent => (intent.aggregation,
        (buildWith (fun _ => true) intent.toDraft sampleColumns).map
          (fun generated => generated.statement.outputs))) =
      .ok (.avg, .ok averageOutputs) := by decide +kernel
  obtain ⟨intent, analyzed, found⟩ := map_eq_ok_iff.mp computed
  obtain ⟨average, query⟩ := Prod.mk.inj found
  obtain ⟨generated, built, selected⟩ := map_eq_ok_iff.mp query
  have held : IsRowOf averageOutputs [.text "Pier 1", twelveAndHalf] _ :=
    isRowOf_ofEntries rfl (rfl : _ = ["station_name", averageLabel].map some)
  have value : (Binary64.signed false 125 : ℚ) * 10 ^ (-1 : ℤ) = 25 / 2 := by
    norm_num [Binary64.signed]
  have denotes : Denotes twelveAndHalf (25 / 2) := value ▸ .decimal false 125 (-1)
  have small : |(25 / 2 : ℚ)| < Binary64.overflow := by
    have own : (Binary64.finite false 25 (-1)).value = 25 / 2 := by
      norm_num [Binary64.value, Binary64.signed]
    have representable : (Binary64.finite false 25 (-1)).IsRepresentable :=
      .finite (by decide) (by decide) (by decide)
    rw [← own]
    exact representable.abs_value_le.trans_lt Binary64.greatest_lt_overflow
  obtain ⟨answer, answered, kept⟩ := exists_keeps_of_analyze (by decide) analyzed built
    (selected ▸ held) rfl (.number denotes small)
  rw [average] at kept
  exact ⟨intent, generated, analyzed, built, selected, _, answer, held, answered, kept⟩

end RideQuery.Answer
