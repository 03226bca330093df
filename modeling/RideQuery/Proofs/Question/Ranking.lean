import Mathlib.Data.List.Pairwise
import RideQuery.Question.Relevance

/-!
# Ranked places

A ranking orders the places of a catalog, for the same column may stand at several of them.
Every place whose column has points is in it once, the one with more points first, and of two
with as many the one that is further in front.  Places without points have no part in it.
-/

namespace RideQuery.Question

open RideQuery.Schema

variable {text : String} {columns : List Column}

/-! ## Places -/

/-- The column at a place of a catalog, with the reasons for which a text points at it. -/
def scoredAt (text : String) (columns : List Column) (place : Fin columns.length) : Scored :=
  scoreColumn text columns[place]

/-- The points that the column at a place of a catalog has. -/
def pointsAt (text : String) (columns : List Column) (place : Fin columns.length) : Nat :=
  (scoredAt text columns place).score

/-- Whether a place has more points than another, or as many and is further in front. -/
def Outranks (text : String) (columns : List Column) (place other : Fin columns.length) : Prop :=
  pointsAt text columns other < pointsAt text columns place ∨
    pointsAt text columns other = pointsAt text columns place ∧ place < other

theorem Outranks.asymm {place other : Fin columns.length} (first : Outranks text columns place other)
    (second : Outranks text columns other place) : False := by
  rcases first with more | ⟨same, inFront⟩
  · rcases second with more' | ⟨same, _⟩ <;> omega
  · rcases second with more | ⟨_, behind⟩ <;> omega

/-- The places whose columns have points, each once, every one before those that it outranks. -/
structure IsRanking (text : String) (columns : List Column)
    (order : List (Fin columns.length)) : Prop where
  nodup : order.Nodup
  mem_iff : ∀ place, place ∈ order ↔ 0 < pointsAt text columns place
  sorted : order.Pairwise (Outranks text columns)

/-! ## Order -/

/-- The places whose columns have points, in the order of the catalog. -/
def relevantPlaces (text : String) (columns : List Column) : List (Fin columns.length) :=
  (List.finRange columns.length).filter fun place => 0 < pointsAt text columns place

/-- Whether a place has at least the points of another. -/
def hasPointsOf (text : String) (columns : List Column) (place other : Fin columns.length) :
    Bool :=
  (scoredAt text columns place).ranksBefore (scoredAt text columns other)

/-- The places whose columns have points, in the order of the ranking. -/
def rankedPlaces (text : String) (columns : List Column) : List (Fin columns.length) :=
  (relevantPlaces text columns).mergeSort (hasPointsOf text columns)

/-- What is ranked are the columns at the ranked places. -/
theorem rank_eq_map_rankedPlaces (text : String) (columns : List Column) :
    rank text columns = (rankedPlaces text columns).map (scoredAt text columns) := by
  have catalog : columns.map (scoreColumn text) =
      (List.finRange columns.length).map (scoredAt text columns) := by
    conv => lhs; rw [← List.map_getElem_finRange columns, List.map_map]
    rfl
  have sameOrder : ∀ place ∈ relevantPlaces text columns, ∀ other ∈ relevantPlaces text columns,
      hasPointsOf text columns place other =
        (scoredAt text columns place).ranksBefore (scoredAt text columns other) :=
    fun _ _ _ _ => rfl
  rw [rank, catalog, List.filter_map, rankedPlaces, List.map_mergeSort sameOrder]
  rfl

theorem hasPointsOf_iff {place other : Fin columns.length} :
    hasPointsOf text columns place other = true ↔
      pointsAt text columns other ≤ pointsAt text columns place :=
  decide_eq_true_iff

theorem hasPointsOf_trans (first second third : Fin columns.length)
    (more : hasPointsOf text columns first second = true)
    (further : hasPointsOf text columns second third = true) :
    hasPointsOf text columns first third = true := by
  rw [hasPointsOf_iff] at more further ⊢
  exact Nat.le_trans further more

theorem hasPointsOf_total (first second : Fin columns.length) :
    (hasPointsOf text columns first second || hasPointsOf text columns second first) = true := by
  rw [Bool.or_eq_true, hasPointsOf_iff, hasPointsOf_iff]
  exact Nat.le_total ..

theorem rankedPlaces_perm (text : String) (columns : List Column) :
    (rankedPlaces text columns).Perm (relevantPlaces text columns) :=
  List.mergeSort_perm ..

/-- Places with the same points keep the order of the catalog. -/
theorem filter_rankedPlaces (text : String) (columns : List Column) (points : Nat) :
    (rankedPlaces text columns).filter (fun place => pointsAt text columns place = points) =
      (relevantPlaces text columns).filter fun place => pointsAt text columns place = points := by
  have level : ((relevantPlaces text columns).filter fun place =>
      pointsAt text columns place = points).Pairwise
        fun place other => hasPointsOf text columns place other = true := by
    apply List.pairwise_of_forall_mem_list
    intro place inside other insideToo
    have own : pointsAt text columns place = points := by simpa using (List.mem_filter.mp inside).2
    have also : pointsAt text columns other = points := by
      simpa using (List.mem_filter.mp insideToo).2
    exact hasPointsOf_iff.mpr (Nat.le_of_eq (also.trans own.symm))
  have kept := (List.sublist_mergeSort hasPointsOf_trans hasPointsOf_total level
    List.filter_sublist).filter fun place => pointsAt text columns place = points
  rw [List.filter_filter] at kept
  simp only [Bool.and_self] at kept
  exact (kept.eq_of_length ((rankedPlaces_perm text columns).filter _).length_eq.symm).symm

/-- The ranked places are a ranking. -/
theorem isRanking_rankedPlaces (text : String) (columns : List Column) :
    IsRanking text columns (rankedPlaces text columns) where
  nodup := by
    rw [(rankedPlaces_perm text columns).nodup_iff]
    exact (List.nodup_finRange _).filter _
  mem_iff := by
    intro place
    rw [(rankedPlaces_perm text columns).mem_iff, relevantPlaces, List.mem_filter,
      decide_eq_true_iff]
    exact and_iff_right (List.mem_finRange place)
  sorted := by
    rw [List.pairwise_iff_forall_sublist]
    intro place other inOrder
    have atLeast : pointsAt text columns other ≤ pointsAt text columns place :=
      hasPointsOf_iff.mp (List.pairwise_iff_forall_sublist.mp
        (List.pairwise_mergeSort hasPointsOf_trans hasPointsOf_total _) inOrder)
    rcases Nat.lt_or_eq_of_le atLeast with more | same
    · exact .inl more
    · refine .inr ⟨same, ?_⟩
      -- Both places are on one level, where the order is the one of the catalog.
      have onLevel := inOrder.filter fun place => pointsAt text columns place =
        pointsAt text columns other
      rw [filter_rankedPlaces] at onLevel
      simp only [List.filter_cons, same, decide_true, if_true, List.filter_nil] at onLevel
      exact List.pairwise_iff_forall_sublist.mp (List.pairwise_lt_finRange _)
        (onLevel.trans (List.filter_sublist.trans List.filter_sublist))

end RideQuery.Question
