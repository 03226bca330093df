import Mathlib.Data.List.Perm.Subperm
import RideQuery.Proofs.Question.Relevance
import RideQuery.Proofs.Schema.Profile
import RideQuery.Proofs.Text.Case
import RideQuery.Proofs.Text.Words

/-!
# Added words

Words that are added to a text, at its end or at its front, take nothing away from what the
rules of relevance look for: parts of the text, its words, and words that stand alone in it.
So no rule gives less for the longer text, and whatever the shorter one points at, the
longer one points at too.
-/

namespace RideQuery.Question

open RideQuery.Text RideQuery.Schema

/-! ## Longer texts -/

/-- Texts that hold everything that the rules look for in another one. -/
structure Covers (longer text : List Char) : Prop where
  parts : text <:+: longer
  words : words text ⊆ words longer
  alone : ∀ vocabulary, hasWord vocabulary text = true → hasWord vocabulary longer = true

/-- What is added behind a space leaves the end of a text an end. -/
theorem covers_append_left (text added : List Char) : Covers (text ++ ' ' :: added) text where
  parts := List.infix_append' [] text (' ' :: added)
  words := by
    rw [words_append_blank rfl]
    exact List.subset_append_left ..
  alone := by
    intro vocabulary found
    rw [hasWord_iff] at found ⊢
    rcases found with ⟨word, member, front, written, left, rfl, spells, begins, ends⟩
    refine ⟨word, member, front, written, left ++ ' ' :: added, by simp, spells, ?_, ?_⟩
    · rwa [boundaryAt, ← List.append_assoc, isWordAt_head?_append_blank rfl]
    · rwa [boundaryAt, isWordAt_head?_append_blank rfl]

/-- What is added in front of a space leaves the start of a text a start. -/
theorem covers_append_right (added text : List Char) : Covers (added ++ ' ' :: text) text where
  parts := ⟨added ++ [' '], [], by simp⟩
  words := by
    rw [words_append_blank rfl]
    exact List.subset_append_right ..
  alone := by
    intro vocabulary found
    rw [hasWord_iff] at found ⊢
    rcases found with ⟨word, member, front, written, left, rfl, spells, begins, ends⟩
    refine ⟨word, member, added ++ ' ' :: front, written, left, by simp, spells, ?_, ends⟩
    rwa [boundaryAt, isWordAt_getLast?_append_blank rfl]

/-! ## Rules -/

theorem isSome_firstWordIn_iff {text name : List Char} :
    (firstWordIn text name).isSome = true ↔
      ∃ word ∈ words text, minWordLength ≤ word.length ∧ word <:+: name := by
  simp [firstWordIn, longWords, occursIn_iff]

theorem ite_points_mono {applies appliesToo : Prop} [Decidable applies] [Decidable appliesToo]
    (implies : applies → appliesToo) (points : Nat) :
    (if applies then points else 0) ≤ if appliesToo then points else 0 := by
  by_cases own : applies
  · rw [if_pos own, if_pos (implies own)]
  · rw [if_neg own]
    exact Nat.zero_le _

namespace Covers

variable {longer text : List Char}

theorem occursIn (covers : Covers longer text) {part : List Char}
    (inside : Text.occursIn part text = true) : Text.occursIn part longer = true := by
  rw [occursIn_iff] at inside ⊢
  exact inside.trans covers.parts

theorem hasMarker (covers : Covers longer text) {markers : List String}
    (inside : Schema.hasMarker markers text = true) :
    Schema.hasMarker markers longer = true := by
  rw [hasMarker_iff] at inside ⊢
  rcases inside with ⟨marker, member, part⟩
  exact ⟨marker, member, part.trans covers.parts⟩

theorem isSome_firstWordIn (covers : Covers longer text) {name : List Char}
    (inside : (firstWordIn text name).isSome = true) :
    (firstWordIn longer name).isSome = true := by
  rw [isSome_firstWordIn_iff] at inside ⊢
  rcases inside with ⟨word, member, long, part⟩
  exact ⟨word, covers.words member, long, part⟩

theorem typePoints_le (covers : Covers longer text) (dataType : List Char) :
    typePoints text dataType ≤ typePoints longer dataType := by
  apply ite_points_mono
  simp only [List.any_eq_true, Bool.and_eq_true]
  rintro ⟨family, member, spoken, typed⟩
  exact ⟨family, member, covers.hasMarker spoken, typed⟩

theorem namingPoints_le (covers : Covers longer text) (name : List Char) :
    namingPoints text name ≤ namingPoints longer name := by
  have fewer : (namingConventions.filter fun convention =>
        Text.occursIn convention.marker.toList name &&
          Schema.hasMarker convention.vocabulary text).length ≤
      (namingConventions.filter fun convention =>
        Text.occursIn convention.marker.toList name &&
          Schema.hasMarker convention.vocabulary longer).length := by
    apply (List.monotone_filter_right _ ?_).length_le
    intro convention met
    rw [Bool.and_eq_true] at met ⊢
    exact ⟨met.1, covers.hasMarker met.2⟩
  have points := Nat.mul_le_mul_left 15 fewer
  exact Nat.le_min.mpr ⟨(Nat.min_le_left ..).trans points, Nat.min_le_right ..⟩

theorem contextPoints_le (covers : Covers longer text) (table : List Char) :
    contextPoints text table ≤ contextPoints longer table := by
  unfold contextPoints
  split
  · exact ite_points_mono covers.hasMarker 15
  · exact Nat.le_refl 0

theorem topicPoints_le (covers : Covers longer text) (name : List Char) :
    topicPoints text name ≤ topicPoints longer name := by
  apply ite_points_mono
  simp only [List.any_eq_true, Bool.and_eq_true]
  rintro ⟨topic, member, marked, spoken⟩
  exact ⟨topic, member, marked, covers.alone _ spoken⟩

/-- No rule gives less for a text that holds everything that it looks for. -/
theorem rulePoints_le (covers : Covers longer text) (column : Column) :
    List.Forall₂ (· ≤ ·) (rulePoints text column) (rulePoints longer column) := by
  refine .cons (ite_points_mono ?_ 100) (.cons (ite_points_mono covers.isSome_firstWordIn 50)
    (.cons (ite_points_mono covers.isSome_firstWordIn 30) (.cons (covers.typePoints_le _)
      (.cons (covers.namingPoints_le _) (.cons (covers.contextPoints_le _)
        (.cons (covers.topicPoints_le _) .nil))))))
  intro named
  rw [Bool.and_eq_true] at named ⊢
  exact ⟨named.1, covers.occursIn named.2⟩

end Covers

/-! ## Scores and ranks -/

theorem toList_append_space (text added : String) :
    (text ++ " " ++ added).toList = text.toList ++ ' ' :: added.toList := by
  simp

theorem score_le_append_left (text added : String) (column : Column) :
    (scoreColumn text column).score ≤ (scoreColumn (text ++ " " ++ added) column).score := by
  rw [score_scoreColumn, score_scoreColumn, toList_append_space, lower_append_space]
  exact sum_le_sum ((covers_append_left ..).rulePoints_le column)

theorem score_le_append_right (added text : String) (column : Column) :
    (scoreColumn text column).score ≤ (scoreColumn (added ++ " " ++ text) column).score := by
  rw [score_scoreColumn, score_scoreColumn, toList_append_space, lower_append_space]
  exact sum_le_sum ((covers_append_right ..).rulePoints_le column)

/-- The ranked columns are those of the catalog that have points. -/
theorem map_column_rank_perm (text : String) (columns : List Column) :
    ((rank text columns).map Scored.column).Perm
      (columns.filter fun column => 0 < (scoreColumn text column).score) := by
  have own : Scored.column ∘ scoreColumn text = id := rfl
  have sorted := (List.mergeSort_perm ((columns.map (scoreColumn text)).filter
    fun scored => 0 < scored.score) Scored.ranksBefore).map Scored.column
  rw [List.filter_map, List.map_map, own, List.map_id] at sorted
  rw [rank, List.filter_map]
  exact sorted

/-- Where no score is less, no column drops out. -/
theorem subperm_rank {text longer : String} (columns : List Column)
    (le : ∀ column, (scoreColumn text column).score ≤ (scoreColumn longer column).score) :
    ((rank text columns).map Scored.column).Subperm
      ((rank longer columns).map Scored.column) := by
  have kept : (columns.filter fun column => 0 < (scoreColumn text column).score).Sublist
      (columns.filter fun column => 0 < (scoreColumn longer column).score) := by
    apply List.monotone_filter_right
    intro column positive
    rw [decide_eq_true_iff] at positive ⊢
    exact positive.trans_le (le column)
  exact (map_column_rank_perm text columns).subperm.trans
    (kept.subperm.trans (map_column_rank_perm longer columns).symm.subperm)

/--
Adding words never lowers relevance: under two texts joined by a space, no column has a lower
score than under either of them, and every column that one of them ranks is ranked, as often
as before, whether the other text comes behind it or in front of it.
-/
theorem relevance_append (first second : String) :
    (∀ column,
      (scoreColumn first column).score ≤ (scoreColumn (first ++ " " ++ second) column).score ∧
      (scoreColumn second column).score ≤ (scoreColumn (first ++ " " ++ second) column).score) ∧
    ∀ columns,
      ((rank first columns).map Scored.column).Subperm
        ((rank (first ++ " " ++ second) columns).map Scored.column) ∧
      ((rank first columns).map Scored.column).Subperm
        ((rank (second ++ " " ++ first) columns).map Scored.column) := by
  constructor
  · intro column
    exact ⟨score_le_append_left first second column, score_le_append_right first second column⟩
  · intro columns
    constructor
    · exact subperm_rank columns (score_le_append_left first second)
    · exact subperm_rank columns (score_le_append_right second first)

end RideQuery.Question
