import Mathlib.Data.List.ReduceOption
import RideQuery.Proofs.Question.Detection

/-!
# Points and scores

The score of a column is the sum of what the seven rules give, and each rule gives its
points or none.  As every rule gives a limited number of points, no column has more than
these limits together, whatever the question.
-/

namespace RideQuery.Question

open RideQuery.Text RideQuery.Schema

/-! ## The rules -/

/-- What each rule gives a column under a text in lower case, in the order of the rules. -/
def rulePoints (text : List Char) (column : Column) : List Nat :=
  [if !column.lowerName.isEmpty && occursIn column.lowerName text then 100 else 0,
    if (firstWordIn text column.lowerName).isSome then 50 else 0,
    if (firstWordIn text column.lowerTable).isSome then 30 else 0,
    typePoints text column.lowerType,
    namingPoints text column.lowerName,
    contextPoints text column.lowerTable,
    topicPoints text column.lowerName]

/-- The points of a reason, if a rule gives one. -/
def pointsOf (reason : Option Reason) : Nat :=
  (reason.map Reason.points).getD 0

theorem pointsOf_ite (applies : Prop) [Decidable applies] (reason : Reason) :
    pointsOf (if applies then some reason else none) = if applies then reason.points else 0 := by
  split <;> rfl

theorem pointsOf_map {α : Type} (reason : α → Reason) {points : Nat}
    (own : ∀ value, (reason value).points = points) (found : Option α) :
    pointsOf (found.map reason) = if found.isSome then points else 0 := by
  cases found with
  | none => rfl
  | some value => exact own value

theorem pointsOf_worthwhile {reason : Nat → Reason} {points : Nat}
    (own : (reason points).points = points) : pointsOf (worthwhile reason points) = points := by
  rw [worthwhile]
  split
  · rename_i nothing
    exact nothing.symm
  · exact own

theorem sum_points_eq (reasons : List (Option Reason)) :
    (reasons.reduceOption.map Reason.points).foldr (· + ·) 0 =
      (reasons.map pointsOf).foldr (· + ·) 0 := by
  induction reasons with
  | nil => rfl
  | cons reason reasons inductionHypothesis =>
      rw [List.map_cons, List.foldr_cons, ← inductionHypothesis]
      cases reason with
      | none =>
          rw [List.reduceOption_cons_of_none]
          exact (Nat.zero_add _).symm
      | some own =>
          rw [List.reduceOption_cons_of_some, List.map_cons, List.foldr_cons]
          rfl

/-- The score of a column is what all rules give together. -/
theorem score_scoreColumn (text : String) (column : Column) :
    (scoreColumn text column).score =
      (rulePoints (lower text.toList) column).foldr (· + ·) 0 := by
  change ((reasonsIn (lower text.toList) column).map Reason.points).foldr (· + ·) 0 = _
  rw [reasonsIn, sum_points_eq]
  simp only [List.map_cons, List.map_nil]
  rw [pointsOf_ite, pointsOf_map .partialName fun _ => rfl, pointsOf_map .tableName fun _ => rfl,
    pointsOf_worthwhile rfl, pointsOf_worthwhile rfl, pointsOf_worthwhile rfl,
    pointsOf_worthwhile rfl]
  rfl

/-- Sums are ordered as their members are. -/
theorem sum_le_sum {points others : List Nat} (le : List.Forall₂ (· ≤ ·) points others) :
    points.foldr (· + ·) 0 ≤ others.foldr (· + ·) 0 := by
  induction le with
  | nil => exact Nat.le_refl 0
  | cons first _ inductionHypothesis => exact Nat.add_le_add first inductionHypothesis

/-! ## Limits -/

/-- The most points that each rule gives, in the order of the rules. -/
def ruleLimits : List Nat := [100, 50, 30, 20, 25, 15, 40]

/-- The most points that a column can have. -/
def greatestScore : Nat := ruleLimits.foldr (· + ·) 0

theorem ite_points_le (applies : Prop) [Decidable applies] (points : Nat) :
    (if applies then points else 0) ≤ points := by
  split <;> omega

theorem contextPoints_le (text table : List Char) : contextPoints text table ≤ 15 := by
  unfold contextPoints
  split
  · exact ite_points_le _ 15
  · omega

/-- Every rule keeps to its limit. -/
theorem rulePoints_le (text : List Char) (column : Column) :
    List.Forall₂ (· ≤ ·) (rulePoints text column) ruleLimits := by
  refine .cons (ite_points_le _ 100) (.cons (ite_points_le _ 50) (.cons (ite_points_le _ 30) ?_))
  refine .cons (ite_points_le _ 20) (.cons (Nat.min_le_right ..) ?_)
  exact .cons (contextPoints_le ..) (.cons (ite_points_le _ 40) .nil)

theorem score_scoreColumn_le (text : String) (column : Column) :
    (scoreColumn text column).score ≤ greatestScore := by
  rw [score_scoreColumn]
  exact sum_le_sum (rulePoints_le ..)

/-- No ranked column has more points than all rules give together. -/
theorem score_le_of_mem_rank {text : String} {columns : List Column} {scored : Scored}
    (member : scored ∈ rank text columns) : scored.score ≤ greatestScore := by
  rw [rank, List.mem_mergeSort] at member
  obtain ⟨column, _, rfl⟩ := List.mem_map.mp (List.mem_filter.mp member).1
  exact score_scoreColumn_le text column

end RideQuery.Question
