import RideQuery.Proofs.Question.Detection
import RideQuery.Proofs.Question.Ranking
import RideQuery.Proofs.Schema.Profile

/-!
# Preferred columns

A column is chosen by preference: of the kinds that a rule asks for, one after the other, the
first that any ranked place is of, and of its places the best.  The detectors and the grouping
follow four such rules, which are stated here by the kinds of columns alone, and each of them
chooses exactly the column that its rule leads to.
-/

namespace RideQuery.Question

open RideQuery.Text RideQuery.Schema

variable {text : String} {columns : List Column}

/-! ## The best place of a kind -/

/-- The place of a kind that has points and outranks every other one. -/
structure IsBest (text : String) (columns : List Column) (kind : Column → Prop)
    (place : Fin columns.length) : Prop where
  own : kind (columns.get place)
  positive : 0 < pointsAt text columns place
  outranks : ∀ other, kind (columns.get other) → other ≠ place → Outranks text columns place other

/-- Whether a kind has no place with points. -/
def IsUnranked (text : String) (columns : List Column) (kind : Column → Prop) : Prop :=
  ∀ place, 0 < pointsAt text columns place → ¬kind (columns.get place)

variable {kind : Column → Prop} {test : Scored → Bool}

theorem IsBest.unique {place other : Fin columns.length} (best : IsBest text columns kind place)
    (again : IsBest text columns kind other) : place = other := by
  by_contra different
  exact (best.outranks other again.own (Ne.symm different)).asymm
    (again.outranks place best.own different)

/-- A search among the ranked columns finds nothing exactly if the kind has no ranked place. -/
theorem find?_rank_eq_none_iff
    (decides : ∀ column, test (scoreColumn text column) = true ↔ kind column) :
    (rank text columns).find? test = none ↔ IsUnranked text columns kind := by
  rw [rank_eq_map_rankedPlaces, List.find?_map, Option.map_eq_none_iff, List.find?_eq_none]
  apply forall_congr'
  intro place
  rw [(isRanking_rankedPlaces text columns).mem_iff, ← decides (columns.get place)]
  rfl

/-- A search among the ranked columns finds the best place of the kind. -/
theorem find?_rank_eq_some_iff
    (decides : ∀ column, test (scoreColumn text column) = true ↔ kind column)
    {scored : Scored} :
    (rank text columns).find? test = some scored ↔
      ∃ place, IsBest text columns kind place ∧ scoredAt text columns place = scored := by
  have found : ∀ place, (rankedPlaces text columns).find? (test ∘ scoredAt text columns) =
      some place → IsBest text columns kind place := by
    intro place search
    rcases List.find?_eq_some_iff_append.mp search with ⟨own, front, back, order, others⟩
    have ranking := isRanking_rankedPlaces text columns
    have positive := (ranking.mem_iff place).mp (by simp [order])
    refine ⟨(decides _).mp own, positive, ?_⟩
    intro other isKind different
    by_cases ranked : 0 < pointsAt text columns other
    · -- The other place is ranked, and it is not in front of the first one that is found.
      have inside := (ranking.mem_iff other).mpr ranked
      have sorted := ranking.sorted
      rw [order] at inside sorted
      rcases List.mem_append.mp inside with earlier | later
      · have passed : (test ∘ scoredAt text columns) other = true := (decides _).mpr isKind
        exact absurd passed (by simpa using others other earlier)
      · rcases List.mem_cons.mp later with rfl | later
        · contradiction
        · exact List.rel_of_pairwise_cons (List.pairwise_append.mp sorted).2.1 later
    · exact .inl (by omega)
  rw [rank_eq_map_rankedPlaces, List.find?_map, Option.map_eq_some_iff]
  constructor
  · rintro ⟨place, search, same⟩
    exact ⟨place, found place search, same⟩
  · rintro ⟨place, best, same⟩
    refine ⟨place, ?_, same⟩
    have some : ((rankedPlaces text columns).find? (test ∘ scoredAt text columns)).isSome :=
      List.find?_isSome.mpr ⟨place, ((isRanking_rankedPlaces text columns).mem_iff place).mpr
        best.positive, (decides _).mpr best.own⟩
    rcases Option.isSome_iff_exists.mp some with ⟨other, search⟩
    rw [search, (found other search).unique best]

/-! ## Preference -/

/-- The place that some kinds lead to, in order: the best one of the first kind with any. -/
inductive IsPreferred (text : String) (columns : List Column) :
    List (Column → Prop) → Fin columns.length → Prop
  | best {kind : Column → Prop} {kinds : List (Column → Prop)} {place : Fin columns.length}
      (isBest : IsBest text columns kind place) : IsPreferred text columns (kind :: kinds) place
  | later {kind : Column → Prop} {kinds : List (Column → Prop)} {place : Fin columns.length}
      (unranked : IsUnranked text columns kind) (rest : IsPreferred text columns kinds place) :
      IsPreferred text columns (kind :: kinds) place

/-- The first answer of some searches, one after the other. -/
def firstFound (tests : List (Scored → Bool)) (ranked : List Scored) : Option Column :=
  (tests.findSome? fun test => ranked.find? test).map Scored.column

/-- Searches for one kind after the other find the column at the preferred place. -/
theorem firstFound_rank_eq_some_iff {tests : List (Scored → Bool)}
    {kinds : List (Column → Prop)}
    (decide : List.Forall₂ (fun test kind =>
      ∀ column, test (scoreColumn text column) = true ↔ kind column) tests kinds)
    {column : Column} :
    firstFound tests (rank text columns) = some column ↔
      ∃ place, IsPreferred text columns kinds place ∧ columns.get place = column := by
  induction decide with
  | nil =>
      constructor
      · intro found
        contradiction
      · rintro ⟨place, preferred, _⟩
        cases preferred
  | @cons test kind tests kinds decides _ inductionHypothesis =>
      rw [firstFound, List.findSome?_cons]
      cases search : (rank text columns).find? test with
      | none =>
          have unranked := (find?_rank_eq_none_iff decides).mp search
          change firstFound tests (rank text columns) = some column ↔ _
          rw [inductionHypothesis]
          constructor
          · rintro ⟨place, preferred, same⟩
            exact ⟨place, .later unranked preferred, same⟩
          · rintro ⟨place, preferred, same⟩
            cases preferred with
            | best isBest => exact absurd isBest.own (unranked place isBest.positive)
            | later _ rest => exact ⟨place, rest, same⟩
      | some scored =>
          rcases (find?_rank_eq_some_iff decides).mp search with ⟨place, isBest, rfl⟩
          constructor
          · intro same
            exact ⟨place, .best isBest, Option.some.inj same⟩
          · rintro ⟨other, preferred, rfl⟩
            cases preferred with
            | best again => rw [isBest.unique again]; rfl
            | later unranked _ => exact absurd isBest.own (unranked place isBest.positive)

/-! ## Kinds of columns -/

/-- Columns of the stations. -/
def IsOfStations (column : Column) : Prop :=
  column.table = "stations"

/-- Columns whose data type holds one of some markers. -/
def HasType (markers : List String) (column : Column) : Prop :=
  ∃ marker ∈ markers, marker.toList <:+: column.lowerType

/-- Columns whose name holds one of some markers. -/
def IsNamed (markers : List String) (column : Column) : Prop :=
  ∃ marker ∈ markers, marker.toList <:+: column.lowerName

/-- The kinds of columns that a detector asks for, the preferred one first. -/
def Detector.kinds : Detector → List (Column → Prop)
  | .place => [fun column => IsOfStations column ∧ HasType textualTypes column, IsOfStations]
  | .gender => [IsNamed ["gender", "sex"]]
  | .weather =>
    [fun column => IsNamed ["precipitation"] column ∧ HasType numericTypes column,
      fun column => IsNamed ["precipitation", "weather", "rain"] column ∧
        HasType numericTypes column]

/-- The kinds of columns that a breakdown asks for, the preferred one first. -/
def groupKinds : List (Column → Prop) :=
  [fun column => IsOfStations column ∧ HasType textualTypes column, IsOfStations,
    HasType textualTypes, fun _ => True]

/-! ## Rules -/

/-- A preference within what is eligible is a search for both and one for what is eligible. -/
theorem preferring_eq_firstFound (preferred eligible : Scored → Bool) (ranked : List Scored) :
    preferring preferred eligible ranked =
      firstFound [fun scored => eligible scored && preferred scored, eligible] ranked := by
  have narrowed : (ranked.filter eligible).find? preferred =
      ranked.find? fun scored => eligible scored && preferred scored := by
    rw [List.find?_filter]
    congr 1
    funext scored
    cases eligible scored <;> cases preferred scored <;> rfl
  rw [preferring, narrowed, List.head?_filter, firstFound, List.findSome?_cons,
    List.findSome?_cons]
  cases ranked.find? fun scored => eligible scored && preferred scored with
  | some scored => rfl
  | none => cases ranked.find? eligible <;> rfl

theorem genderColumn_eq_firstFound (ranked : List Scored) :
    genderColumn ranked = firstFound [fun scored => isGenderColumn scored.column] ranked := by
  rw [genderColumn, firstFound, List.findSome?_cons]
  cases ranked.find? fun scored => isGenderColumn scored.column <;> rfl

/-- Grouping goes on with columns of any table only where none of the stations is ranked. -/
theorem rankedGroupColumn_eq_firstFound (ranked : List Scored) :
    rankedGroupColumn ranked =
      firstFound [fun scored => atStations scored && isTextual scored, atStations,
        fun scored => true && isTextual scored, fun _ => true] ranked := by
  rw [rankedGroupColumn, placeColumn, preferring_eq_firstFound, preferring_eq_firstFound]
  simp only [firstFound, List.findSome?_cons]
  split
  · rename_i atAny
    rcases Option.isSome_iff_exists.mp (List.find?_isSome.mpr (List.any_eq_true.mp atAny)) with
      ⟨scored, search⟩
    rw [search]
  · rename_i atNone
    have nowhere : ∀ scored ∈ ranked, atStations scored = false := by simpa using atNone
    have noStation : ranked.find? atStations = none := by simpa using nowhere
    have noTextualStation :
        ranked.find? (fun scored => atStations scored && isTextual scored) = none := by
      rw [List.find?_eq_none]
      intro scored inside
      rw [nowhere scored inside, Bool.false_and]
      exact Bool.false_ne_true
    rw [noStation, noTextualStation]

/-- Some column is grouped by wherever any is ranked. -/
theorem isSome_rankedGroupColumn {ranked : List Scored} (nonempty : ranked.isEmpty = false) :
    (rankedGroupColumn ranked).isSome = true := by
  rw [rankedGroupColumn_eq_firstFound, firstFound, Option.isSome_map, List.findSome?_isSome_iff]
  refine ⟨fun _ => true, by simp, ?_⟩
  rw [List.find?_isSome]
  rcases List.exists_mem_of_ne_nil ranked (List.isEmpty_eq_false_iff.mp nonempty) with
    ⟨scored, inside⟩
  exact ⟨scored, inside, rfl⟩

theorem atStations_iff (column : Column) :
    atStations (scoreColumn text column) = true ↔ IsOfStations column :=
  beq_iff_eq

theorem isTextual_iff (column : Column) :
    isTextual (scoreColumn text column) = true ↔ HasType textualTypes column :=
  hasMarker_iff

theorem isTextualStation_iff (column : Column) :
    (atStations (scoreColumn text column) && isTextual (scoreColumn text column)) = true ↔
      IsOfStations column ∧ HasType textualTypes column := by
  rw [Bool.and_eq_true, atStations_iff, isTextual_iff]

theorem isWeatherColumn_iff (column : Column) :
    (column.named weatherMarkers && column.typed numericTypes) = true ↔
      IsNamed ["precipitation", "weather", "rain"] column ∧ HasType numericTypes column := by
  rw [Bool.and_eq_true, Column.named, Column.typed, hasMarker_iff, hasMarker_iff]
  rfl

/-- Whatever is named for an amount of rain is named for the weather. -/
theorem isRainColumn_iff (column : Column) :
    (column.named weatherMarkers && column.typed numericTypes && column.named rainMarkers) =
        true ↔ IsNamed ["precipitation"] column ∧ HasType numericTypes column := by
  rw [Bool.and_eq_true, isWeatherColumn_iff, Column.named, hasMarker_iff]
  constructor
  · rintro ⟨⟨_, numeric⟩, rain⟩
    exact ⟨rain, numeric⟩
  · rintro ⟨⟨marker, member, inside⟩, numeric⟩
    obtain rfl := List.mem_singleton.mp member
    exact ⟨⟨⟨"precipitation", List.mem_cons_self, inside⟩, numeric⟩, "precipitation", member, inside⟩

/-- Among the ranked columns, a detector chooses the one at the place that it prefers. -/
theorem choice_rank_eq_some_iff {detector : Detector} {column : Column} :
    detector.choice (rank text columns) = some column ↔
      ∃ place, IsPreferred text columns detector.kinds place ∧ columns.get place = column := by
  cases detector with
  | place =>
      change preferring isTextual atStations (rank text columns) = some column ↔ _
      rw [preferring_eq_firstFound]
      exact firstFound_rank_eq_some_iff (.cons isTextualStation_iff (.cons atStations_iff .nil))
  | gender =>
      change genderColumn (rank text columns) = some column ↔ _
      rw [genderColumn_eq_firstFound]
      exact firstFound_rank_eq_some_iff (.cons (fun _ => hasMarker_iff) .nil)
  | weather =>
      change weatherColumn (rank text columns) = some column ↔ _
      rw [weatherColumn, preferring_eq_firstFound]
      exact firstFound_rank_eq_some_iff (.cons isRainColumn_iff (.cons isWeatherColumn_iff .nil))

/-- Among the ranked columns, a breakdown is made by the one at the place that it prefers. -/
theorem rankedGroupColumn_rank_eq_some_iff {column : Column} :
    rankedGroupColumn (rank text columns) = some column ↔
      ∃ place, IsPreferred text columns groupKinds place ∧ columns.get place = column := by
  rw [rankedGroupColumn_eq_firstFound]
  exact firstFound_rank_eq_some_iff (.cons isTextualStation_iff (.cons atStations_iff
    (.cons isTextual_iff (.cons (fun _ => iff_of_true rfl trivial) .nil))))

/--
The columns that an intent is made from are the best ones.  They stand at the places of a
ranking: each place with points once, the higher points first and equal points in the order of
the catalog.  Among them, a detector chooses exactly the column at the place that its kinds
lead to, and puts its condition on the name of that column; and a breakdown of what is ranked
is by the name of the column at the place that its own kinds lead to.
-/
theorem exists_isRanking_rankedColumns (asked : Asked) (columns : List Column) :
    ∃ order, IsRanking (lowerText asked.text) columns order ∧
      rankedColumns asked columns = order.map (scoredAt (lowerText asked.text) columns) ∧
      (∀ (detector : Detector) (column : Column),
        detector.choice (rankedColumns asked columns) = some column ↔
          ∃ place, IsPreferred (lowerText asked.text) columns detector.kinds place ∧
            columns.get place = column) ∧
      (∀ (detector : Detector) (filter : Filter),
        detector.detect asked (rankedColumns asked columns) = some filter →
          ∃ place, IsPreferred (lowerText asked.text) columns detector.kinds place ∧
            filter.column = (columns.get place).name) ∧
      ∀ wanted, wantsGroups wanted = true → order ≠ [] →
        ∃ place, IsPreferred (lowerText asked.text) columns groupKinds place ∧
          groupNames wanted columns (rankedColumns asked columns) = [(columns.get place).name] := by
  have places : rankedColumns asked columns =
      (rankedPlaces (lowerText asked.text) columns).map (scoredAt (lowerText asked.text) columns) :=
    rank_eq_map_rankedPlaces ..
  refine ⟨rankedPlaces (lowerText asked.text) columns, isRanking_rankedPlaces .., places,
    fun _ _ => choice_rank_eq_some_iff, ?_, ?_⟩
  · intro detector filter detected
    rcases (isDetected_of_detect detected).column with ⟨column, chosen, name⟩
    rcases choice_rank_eq_some_iff.mp chosen with ⟨place, preferred, rfl⟩
    exact ⟨place, preferred, name.symm⟩
  · intro wanted wants nonempty
    have ranked : (rankedColumns asked columns).isEmpty = false := by
      rw [places, List.isEmpty_map, List.isEmpty_eq_false_iff]
      exact nonempty
    rcases Option.isSome_iff_exists.mp (isSome_rankedGroupColumn ranked) with ⟨column, chosen⟩
    rcases rankedGroupColumn_rank_eq_some_iff.mp chosen with ⟨place, preferred, rfl⟩
    refine ⟨place, preferred, ?_⟩
    rw [groupNames, if_pos wants, ranked, if_neg Bool.false_ne_true, chosen]
    rfl

end RideQuery.Question
