import RideQuery.Proofs.Value.Display
import RideQuery.Question.Analysis

/-!
# What questions name

Every column that a question's filters or groups name was chosen among the ranked columns,
or is a station's name, and so it is one of the catalog.  Every filter that is detected
passes one value beside the query.
-/

namespace RideQuery.Question

open RideQuery.Text RideQuery.Schema

variable {columns : List Column} {ranked : List Scored}

/-! ## Ranked columns -/

theorem mem_of_mem_rank {text : String} {scored : Scored} (member : scored ∈ rank text columns) :
    scored.column ∈ columns := by
  rw [rank, List.mem_mergeSort, List.mem_filter, List.mem_map] at member
  obtain ⟨⟨column, inside, rfl⟩, _⟩ := member
  exact inside

theorem exists_of_preferring {preferred eligible : Scored → Bool} {column : Column}
    (chosen : preferring preferred eligible ranked = some column) :
    ∃ scored ∈ ranked, scored.column = column := by
  rw [preferring] at chosen
  split at chosen
  · rename_i scored found
    obtain rfl := Option.some.inj chosen
    exact ⟨scored, List.mem_of_mem_filter (List.mem_of_find?_eq_some found), rfl⟩
  · obtain ⟨scored, first, rfl⟩ := Option.map_eq_some_iff.mp chosen
    exact ⟨scored, List.mem_of_mem_filter (List.mem_of_head? first), rfl⟩

/-! ## Choices -/

/-- The column that a detector puts its condition on. -/
def Detector.choice : Detector → List Scored → Option Column
  | .place => placeColumn
  | .gender => genderColumn
  | .weather => weatherColumn

theorem Detector.exists_of_choice {detector : Detector} {column : Column}
    (chosen : detector.choice ranked = some column) :
    ∃ scored ∈ ranked, scored.column = column := by
  cases detector with
  | place => exact exists_of_preferring chosen
  | gender =>
      obtain ⟨scored, first, rfl⟩ := Option.map_eq_some_iff.mp chosen
      exact ⟨scored, List.mem_of_find?_eq_some first, rfl⟩
  | weather => exact exists_of_preferring chosen

/-- The column that a breakdown is made by. -/
def groupChoice (columns : List Column) (ranked : List Scored) : Option Column :=
  if ranked.isEmpty then columns.find? isStationName else rankedGroupColumn ranked

theorem mem_of_groupChoice {column : Column}
    (fromCatalog : ∀ scored ∈ ranked, scored.column ∈ columns)
    (chosen : groupChoice columns ranked = some column) : column ∈ columns := by
  rw [groupChoice] at chosen
  split at chosen
  · exact List.mem_of_find?_eq_some chosen
  · obtain ⟨scored, inside, rfl⟩ : ∃ scored ∈ ranked, scored.column = column := by
      rw [rankedGroupColumn] at chosen
      split at chosen
      · exact exists_of_preferring chosen
      · exact exists_of_preferring chosen
    exact fromCatalog scored inside

/-! ## Filters -/

/-- Filters on the column that a detector chooses, which pass one value beside the query. -/
structure IsDetected (detector : Detector) (ranked : List Scored) (filter : Filter) :
    Prop where
  column : ∃ column, detector.choice ranked = some column ∧ column.name = filter.column
  parameterised : filter.parameterised = true
  operator : filter.operator ≠ .isIn
  value : filter.value.IsDisplayable

/-- What a detector finds is its condition on the column that it chooses. -/
theorem Detector.detect_cases {detector : Detector} {asked : Asked} {filter : Filter}
    (found : detector.detect asked ranked = some filter) :
    ∃ column, detector.choice ranked = some column ∧
      ((∃ place, filter = placeFilter column place) ∨
        (∃ gender, filter = genderFilter column gender) ∨ filter = weatherFilter column) := by
  cases detector with
  | place =>
      obtain ⟨_, _, rest⟩ := Option.bind_eq_some_iff.mp found
      obtain ⟨column, chosen, rest⟩ := Option.bind_eq_some_iff.mp rest
      obtain ⟨place, _, done⟩ := Option.bind_eq_some_iff.mp rest
      exact ⟨column, chosen, .inl ⟨place, (Option.some.inj done).symm⟩⟩
  | gender =>
      obtain ⟨_, _, rest⟩ := Option.bind_eq_some_iff.mp found
      obtain ⟨column, chosen, rest⟩ := Option.bind_eq_some_iff.mp rest
      obtain ⟨gender, _, done⟩ := Option.bind_eq_some_iff.mp rest
      exact ⟨column, chosen, .inr (.inl ⟨gender, (Option.some.inj done).symm⟩)⟩
  | weather =>
      obtain ⟨_, _, rest⟩ := Option.bind_eq_some_iff.mp found
      obtain ⟨column, chosen, done⟩ := Option.bind_eq_some_iff.mp rest
      exact ⟨column, chosen, .inr (.inr (Option.some.inj done).symm)⟩

theorem isDetected_of_detect {detector : Detector} {asked : Asked} {filter : Filter}
    (found : detector.detect asked ranked = some filter) :
    IsDetected detector ranked filter := by
  obtain ⟨column, chosen, ⟨place, rfl⟩ | ⟨gender, rfl⟩ | rfl⟩ := Detector.detect_cases found
  · exact ⟨⟨column, chosen, rfl⟩, rfl, nofun, trivial⟩
  · exact ⟨⟨column, chosen, rfl⟩, rfl, nofun, trivial⟩
  · exact ⟨⟨column, chosen, rfl⟩, rfl, nofun, (by decide : (FilterValue.int 0).IsDisplayable)⟩

theorem isDetected_of_mem_detectAll {detectors : List Detector} {asked : Asked} :
    ∀ filter ∈ Detector.detectAll detectors asked ranked,
      ∃ detector, IsDetected detector ranked filter := by
  intro filter member
  obtain ⟨detector, _, found⟩ := List.mem_filterMap.mp member
  exact ⟨detector, isDetected_of_detect found⟩

/-- Each detector finds at most one filter. -/
theorem length_detectAll_le (detectors : List Detector) (asked : Asked) (ranked : List Scored) :
    (Detector.detectAll detectors asked ranked).length ≤ detectors.length :=
  List.length_filterMap_le ..

/-! ## Groups -/

/-- The name of a group is that of the column that is chosen for it. -/
theorem exists_of_mem_groupNames {asked : Asked} {name : String}
    (member : name ∈ groupNames asked columns ranked) :
    ∃ column, groupChoice columns ranked = some column ∧ column.name = name := by
  rw [groupNames] at member
  split at member
  · exact Option.map_eq_some_iff.mp (Option.mem_toList.mp member)
  · contradiction

/-- Who asks for a breakdown asks for the most of something, if for no other aggregate. -/
theorem aggregation_of_wantsGroups {asked : Asked} (wants : wantsGroups asked = true) :
    aggregation asked = .avg ∨ aggregation asked = .sum ∨ aggregation asked = .max := by
  have most : hasMarker ["most", "highest"] (lower asked.chars) = true :=
    List.any_eq_true.mpr
      ⟨"most", List.mem_cons_self, List.all_eq_true.mp wants "most" (by decide)⟩
  unfold aggregation aggregationWords
  cases average : hasMarker ["average", "mean", "typical", "usual"] (lower asked.chars) with
  | true => simp [average]
  | false =>
      cases sum : hasMarker ["kilometer", "kilometre", "km", "distance", "length"]
          (lower asked.chars) with
      | true => simp [average, sum]
      | false => simp [average, sum, most]

/-! ## Intents -/

/-- The parts of an intent that is made from a question. -/
theorem exists_of_analyze {asked : Asked} {today : Calendar.Date} {intent : Intent}
    (analyzed : analyze asked columns today = .ok intent) :
    let lowered : Asked := some (lowerText asked.text)
    dateRange lowered.chars today = .ok intent.dateRange ∧
      intent.filters = Detector.detectAll Detector.all asked (rankedColumns asked columns) ∧
      intent.groupBy = groupNames lowered columns (rankedColumns asked columns) := by
  rw [analyze] at analyzed
  split at analyzed
  · dsimp only at analyzed
    split at analyzed
    · contradiction
    · rename_i range found
      obtain rfl := Except.ok.inj analyzed
      exact ⟨found, rfl, rfl⟩
  · contradiction

theorem aggregation_eq_of_analyze {asked : Asked} {today : Calendar.Date} {intent : Intent}
    (analyzed : analyze asked columns today = .ok intent) :
    intent.aggregation = aggregation (some (lowerText asked.text)) := by
  rw [analyze] at analyzed
  split at analyzed
  · dsimp only at analyzed
    split at analyzed
    · contradiction
    · obtain rfl := Except.ok.inj analyzed
      rfl
  · contradiction

/-- Plain counts are not broken down. -/
theorem aggregation_of_analyze {asked : Asked} {today : Calendar.Date} {intent : Intent}
    (analyzed : analyze asked columns today = .ok intent) (grouped : intent.groupBy ≠ []) :
    intent.aggregation = .avg ∨ intent.aggregation = .sum ∨ intent.aggregation = .max := by
  obtain ⟨_, _, groups⟩ := exists_of_analyze analyzed
  have wants : wantsGroups (some (lowerText asked.text)) = true := by
    by_contra plain
    rw [groupNames, if_neg plain] at groups
    exact grouped groups
  rw [aggregation_eq_of_analyze analyzed]
  exact aggregation_of_wantsGroups wants

theorem mem_of_mem_rankedColumns {asked : Asked} {scored : Scored}
    (member : scored ∈ rankedColumns asked columns) : scored.column ∈ columns :=
  mem_of_mem_rank member

end RideQuery.Question
