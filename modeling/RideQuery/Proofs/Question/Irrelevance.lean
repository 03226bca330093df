import RideQuery.Proofs.Question.Detection

/-!
# Irrelevant columns

Columns that a question does not point at have no points, and so no part in the ranking.  The
detectors see the ranking alone, and so does the grouping as long as anything is ranked: where
nothing is, it looks for the name of a station in the catalog itself.
-/

namespace RideQuery.Question

open RideQuery.Text RideQuery.Schema

variable {columns wider : List Column} {text : String}

/-! ## Inserted columns -/

/-- A catalog, and one with columns of a kind inserted into it at any places. -/
inductive IsPadded (kind : Column → Prop) : List Column → List Column → Prop
  | nil : IsPadded kind [] []
  | keep {columns wider : List Column} (column : Column) (rest : IsPadded kind columns wider) :
      IsPadded kind (column :: columns) (column :: wider)
  | insert {columns wider : List Column} {column : Column} (own : kind column)
      (rest : IsPadded kind columns wider) : IsPadded kind columns (column :: wider)

/-- Whether a text does not point at a column. -/
def IsIrrelevant (text : String) (column : Column) : Prop :=
  (scoreColumn text column).score = 0

/-- Columns without points are not ranked, wherever they stand. -/
theorem rank_of_isPadded (padded : IsPadded (IsIrrelevant text) columns wider) :
    rank text wider = rank text columns := by
  have same : (wider.map (scoreColumn text)).filter (fun scored => 0 < scored.score) =
      (columns.map (scoreColumn text)).filter fun scored => 0 < scored.score := by
    induction padded with
    | nil => rfl
    | keep column _ inductionHypothesis =>
        rw [List.map_cons, List.map_cons, List.filter_cons, List.filter_cons, inductionHypothesis]
    | @insert columns wider column own _ inductionHypothesis =>
        have without : ¬0 < (scoreColumn text column).score := Nat.not_lt.mpr (Nat.le_of_eq own)
        rw [List.map_cons, List.filter_cons, if_neg (by simpa using without), inductionHypothesis]
  rw [rank, rank, same]

theorem rank_ne_nil_of_relevant {column : Column} (member : column ∈ columns)
    (relevant : ¬IsIrrelevant text column) : (rank text columns).isEmpty = false := by
  rw [List.isEmpty_eq_false_iff]
  apply List.ne_nil_of_mem (a := scoreColumn text column)
  rw [rank, List.mem_mergeSort, List.mem_filter, decide_eq_true_iff]
  exact ⟨List.mem_map_of_mem member, Nat.pos_of_ne_zero relevant⟩

/-- As long as anything is ranked, the catalog itself is not looked at for a breakdown. -/
theorem groupNames_of_ranked (asked : Asked) {ranked : List Scored}
    (nonempty : ranked.isEmpty = false) (columns wider : List Column) :
    groupNames asked wider ranked = groupNames asked columns ranked := by
  rw [groupNames, groupNames, nonempty]
  rfl

/-! ## Intents -/

/-- Intents that agree in everything but the columns to group by. -/
structure AgreesButGroups (intent other : Intent) : Prop where
  kind : other.kind = intent.kind
  aggregation : other.aggregation = intent.aggregation
  filters : other.filters = intent.filters
  dateRange : other.dateRange = intent.dateRange

/--
Columns that a question does not point at do not change its intent.  On a catalog with such
columns inserted anywhere, the analysis fails as it does without them, or it succeeds with
them as without, with the same aggregation, filters and dates, and with the same groups as
well if the question points at any column of the narrower catalog.
-/
theorem analyze_of_isPadded {asked : Asked}
    (padded : IsPadded (IsIrrelevant (lowerText asked.text)) columns wider)
    (today : Calendar.Date) :
    (∃ failure, analyze asked columns today = .error failure ∧
      analyze asked wider today = .error failure) ∨
    ∃ intent other, analyze asked columns today = .ok intent ∧
      analyze asked wider today = .ok other ∧ AgreesButGroups intent other ∧
      ((∃ column ∈ columns, ¬IsIrrelevant (lowerText asked.text) column) →
        other.groupBy = intent.groupBy) := by
  have ranked : rankedColumns asked wider = rankedColumns asked columns :=
    rank_of_isPadded padded
  rw [analyze, analyze, ranked]
  cases isValid asked with
  | false => exact .inl ⟨.rejected, rfl, rfl⟩
  | true =>
      rw [if_pos rfl, if_pos rfl]
      dsimp only
      cases dateRange (Asked.chars (some (lowerText asked.text))) today with
      | error failure => exact .inl ⟨.date failure, rfl, rfl⟩
      | ok dates =>
          refine .inr ⟨_, _, rfl, rfl, ⟨rfl, rfl, rfl, rfl⟩, ?_⟩
          rintro ⟨column, member, relevant⟩
          have nonempty : (rankedColumns asked columns).isEmpty = false :=
            rank_ne_nil_of_relevant member relevant
          dsimp only
          exact groupNames_of_ranked _ nonempty columns wider

/-- A question that is answered by a breakdown of the trips by bike. -/
def bikeQuestion : Asked :=
  some "Which bike had the most trips?"

/-- The bike of a trip. -/
def bikeId : Column :=
  { table := factTable, name := "bike_id", dataType := some "integer", nullable := false }

/-- The name of a station, of which the question does not speak. -/
def stationTitle : Column :=
  { table := "stations", name := "title", dataType := some "varchar", nullable := true }

theorem analyze_of_isPadded_title :
    IsPadded (IsIrrelevant (lowerText bikeQuestion.text)) [bikeId] [stationTitle, bikeId] ∧
      ∃ intent other, analyze bikeQuestion [bikeId] ⟨2025, 6, 15, by decide⟩ = .ok intent ∧
        analyze bikeQuestion [stationTitle, bikeId] ⟨2025, 6, 15, by decide⟩ = .ok other ∧
        AgreesButGroups intent other ∧ other.groupBy = intent.groupBy := by
  have without : IsIrrelevant (lowerText bikeQuestion.text) stationTitle := by
    unfold IsIrrelevant
    decide +kernel
  have points : ¬IsIrrelevant (lowerText bikeQuestion.text) bikeId := by
    unfold IsIrrelevant
    decide +kernel
  have padded : IsPadded (IsIrrelevant (lowerText bikeQuestion.text)) [bikeId]
      [stationTitle, bikeId] := .insert without (.keep bikeId .nil)
  have succeeds : (analyze bikeQuestion [bikeId] ⟨2025, 6, 15, by decide⟩).isOk = true := by
    decide +kernel
  refine ⟨padded, ?_⟩
  rcases analyze_of_isPadded padded ⟨2025, 6, 15, by decide⟩ with
    ⟨failure, failed, _⟩ | ⟨intent, other, analyzed, again, agrees, groups⟩
  · rw [failed] at succeeds
    exact absurd succeeds Bool.false_ne_true
  · exact ⟨intent, other, analyzed, again, agrees, groups ⟨bikeId, List.mem_cons_self, points⟩⟩

end RideQuery.Question
