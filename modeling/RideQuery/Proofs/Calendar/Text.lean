import Mathlib.Data.List.Basic
import RideQuery.Calendar.Date
import RideQuery.Proofs.Number.Numeral

/-!
# Dates as text

A date is written as four, two and two ASCII digits joined by hyphens.
-/

namespace RideQuery.Calendar.Date

open RideQuery.Number

theorem isDigit_of_mem_padded {width n : Nat} {c : Char} (member : c ∈ padded width n) :
    c.isDigit = true := by
  rcases List.mem_append.mp member with zero | digit
  · rw [List.eq_of_mem_replicate zero]
    decide
  · exact Nat.isDigit_of_mem_toDigits (by decide) (by decide) digit

/-- A number that fits a width is padded to it. -/
theorem length_padded {width n : Nat} (positive : 0 < width) (fits : n < 10 ^ width) :
    (padded width n).length = width := by
  have short : (digitChars n).length ≤ width :=
    (Nat.length_toDigits_le_iff (by decide) positive).mpr fits
  rw [padded, List.length_append, List.length_replicate]
  omega

theorem exists_padded_two {n : Nat} (fits : n < 100) :
    ∃ a b, padded 2 n = [a, b] ∧ a.isDigit = true ∧ b.isDigit = true := by
  have length : (padded 2 n).length = 2 := length_padded (by decide) fits
  obtain ⟨a, b, pair⟩ := List.length_eq_two.mp length
  have digits : ∀ c ∈ [a, b], c.isDigit = true :=
    fun c member => isDigit_of_mem_padded (pair ▸ member)
  exact ⟨a, b, pair, digits a (by simp), digits b (by simp)⟩

theorem exists_padded_four {n : Nat} (fits : n < 10000) :
    ∃ a b c d, padded 4 n = [a, b, c, d] ∧ ∀ digit ∈ [a, b, c, d], digit.isDigit = true := by
  have length : (padded 4 n).length = 4 := length_padded (by decide) fits
  obtain ⟨a, b, c, d, all⟩ := List.length_eq_four.mp length
  exact ⟨a, b, c, d, all, fun digit member => isDigit_of_mem_padded (all ▸ member)⟩

theorem daysInMonth_le (year month : Nat) : daysInMonth year month ≤ 31 := by
  unfold daysInMonth
  split
  · split <;> decide
  · split <;> decide

/-- The written form of a date. -/
theorem exists_isoChars_eq (date : Date) :
    ∃ y₁ y₂ y₃ y₄ m₁ m₂ d₁ d₂,
      date.isoChars = [y₁, y₂, y₃, y₄, '-', m₁, m₂, '-', d₁, d₂] ∧
      ∀ digit ∈ [y₁, y₂, y₃, y₄, m₁, m₂, d₁, d₂], digit.isDigit = true := by
  obtain ⟨_, yearLast, _, monthLast, _, dayLast⟩ := date.valid
  have monthFits : date.month < 100 := by omega
  have dayFits : date.day < 100 := by
    have := daysInMonth_le date.year date.month
    omega
  obtain ⟨y₁, y₂, y₃, y₄, year, yearDigits⟩ :=
    exists_padded_four (Nat.lt_succ_of_le yearLast)
  obtain ⟨m₁, m₂, month, m₁Digit, m₂Digit⟩ := exists_padded_two monthFits
  obtain ⟨d₁, d₂, day, d₁Digit, d₂Digit⟩ := exists_padded_two dayFits
  refine ⟨y₁, y₂, y₃, y₄, m₁, m₂, d₁, d₂, ?_, ?_⟩
  · rw [isoChars, year, month, day]
    rfl
  · intro digit member
    simp only [List.mem_cons, List.not_mem_nil, or_false] at yearDigits member
    rcases member with first | second | third | fourth | rfl | rfl | rfl | rfl
    · exact yearDigits digit (.inl first)
    · exact yearDigits digit (.inr (.inl second))
    · exact yearDigits digit (.inr (.inr (.inl third)))
    · exact yearDigits digit (.inr (.inr (.inr fourth)))
    all_goals assumption

end RideQuery.Calendar.Date
