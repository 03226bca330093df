import RideQuery.Proofs.Number.Shortest

/-!
# Closest numbers

Integers and decimals become the closest number of double precision, unless they are too great.
The decimals that are taken for nought without being rounded are too small to be anything else.
-/

namespace RideQuery.Number.Binary64

variable {x : Binary64} {q : ℚ}

theorem IsRepresentable.isClosest (representable : x.IsRepresentable) : IsClosest x.value x where
  representable := representable
  close y _ := by
    rw [sub_self, abs_zero]
    exact abs_nonneg _

/-- No number but nought is below a power of two. -/
theorem IsRepresentable.least_le (representable : x.IsRepresentable) (nonzero : x.value ≠ 0) :
    2 ^ minExponent ≤ |x.value| := by
  cases representable with
  | @finite negative significand exponent _ least _ =>
      have some : significand ≠ 0 := by
        rintro rfl
        rw [value_finite, Nat.cast_zero, zero_mul, neg_zero, ite_self] at nonzero
        exact nonzero rfl
      have one : (1 : ℚ) ≤ significand := by
        exact_mod_cast Nat.one_le_iff_ne_zero.mpr some
      rw [abs_value_finite]
      calc (2 : ℚ) ^ minExponent ≤ 2 ^ exponent := zpow_le_zpow_right₀ one_le_two least
        _ ≤ significand * 2 ^ exponent := le_mul_of_one_le_left (by positivity) one

/-- Nought is the closest number to what is less than a half of every other. -/
theorem isClosest_zero (small : 2 * |q| ≤ 2 ^ minExponent) (negative : Bool) :
    IsClosest q (zero negative) where
  representable := representable_zero negative
  close y representable := by
    rw [value_zero, sub_zero]
    by_cases nought : y.value = 0
    · rw [nought, sub_zero]
    · have least := representable.least_le nought
      have path : |y.value| ≤ |q| + |q - y.value| :=
        calc |y.value| = |q - (q - y.value)| := by rw [sub_sub_cancel]
          _ ≤ |q| + |q - y.value| := abs_sub _ _
      linarith

theorem abs_signed (negative : Bool) (n : ℕ) : |(signed negative n : ℚ)| = n := by
  rw [cast_signed]
  split
  · rw [abs_neg, Nat.abs_cast]
  · exact Nat.abs_cast n

theorem abs_signed_mul_zpow (negative : Bool) (digits : ℕ) (power : ℤ) :
    |(signed negative digits : ℚ) * 10 ^ power| = digits * 10 ^ power := by
  have positive : (0 : ℚ) < 10 ^ power := by positivity
  rw [abs_mul, abs_signed, abs_of_pos positive]

theorem signed_div (negative : Bool) (num den : ℕ) :
    (signed negative num : ℚ) / den = if negative then -((num : ℚ) / den) else num / den := by
  rw [cast_signed]
  split
  · rw [neg_div]
  · rfl

/-- An integer that is not too great becomes the closest number. -/
theorem exists_ofInt {n : ℤ} (inRange : |(n : ℚ)| < overflow) :
    ∃ x, ofInt n = .ok x ∧ IsClosest n x := by
  have own : signed (n < 0) n.natAbs = n := by
    by_cases negative : n < 0
    · rw [signed, if_pos (decide_eq_true negative)]
      omega
    · rw [signed, if_neg (by simpa using negative)]
      omega
  have small : (n.natAbs : ℚ) / (1 : ℕ) < overflow := by
    rw [Nat.cast_one, div_one, Nat.cast_natAbs, Int.cast_abs]
    exact inRange
  have finite (sign : Bool) : ofRatio (n < 0) n.natAbs 1 ≠ .infinity sign :=
    ofRatio_ne_infinity one_pos small sign
  have closest := isClosest_ofRatio one_pos (finite (n < 0))
  rw [own, Nat.cast_one, div_one] at closest
  refine ⟨_, ?_, closest⟩
  rw [ofInt]
  split
  · rename_i sign infinite
    exact absurd infinite (finite sign)
  · rfl

/-- A decimal that is not too great becomes the closest number. -/
theorem isClosest_ofDecimal {negative : Bool} {digits : ℕ} {power : ℤ}
    (inRange : (digits : ℚ) * 10 ^ power < overflow) :
    IsClosest (signed negative digits * 10 ^ power) (ofDecimal negative digits power) := by
  by_cases none : digits = 0
  · rw [ofDecimal, if_pos (.inl none)]
    refine isClosest_zero ?_ negative
    rw [abs_signed_mul_zpow, none, Nat.cast_zero, zero_mul, mul_zero]
    positivity
  have fits := (isPointOf_digitCount none).mul_zpow power
  by_cases least : -330 ≤ (digitCount digits : ℤ) + power
  · have greatest : (digitCount digits : ℤ) + power ≤ 310 := by
      by_contra beyond
      have reached : (10 : ℚ) ^ (310 : ℤ) ≤ 10 ^ ((digitCount digits : ℤ) + power - 1) :=
        zpow_le_zpow_right₀ (by norm_num) (by omega)
      linarith [fits.reached, beyond_lt_ten_zpow, overflow_lt]
    have ratio := scaleByTen_ratio digits 1 power
    rw [Nat.cast_one, div_one] at ratio
    have positive := scaleByTen_snd_pos digits one_pos power
    have closest := isClosest_ofRatio positive
      (ofRatio_ne_infinity positive (ratio ▸ inRange) negative)
    rw [signed_div, ratio] at closest
    rw [ofDecimal_eq_ofRatio none least greatest, cast_signed, ite_mul, neg_mul]
    exact closest
  · rw [ofDecimal, if_pos (.inr (by omega))]
    refine isClosest_zero ?_ negative
    have below : (10 : ℚ) ^ ((digitCount digits : ℤ) + power) ≤ 10 ^ (-331 : ℤ) :=
      zpow_le_zpow_right₀ (by norm_num) (by omega)
    have tenfold : (10 : ℚ) ^ (-330 : ℤ) = 10 * 10 ^ (-331 : ℤ) := by
      rw [← zpow_one_add₀ (by norm_num)]
      rfl
    have positive : (0 : ℚ) < 10 ^ (-331 : ℤ) := by positivity
    rw [abs_signed_mul_zpow]
    linarith [fits.below, ten_zpow_le_least]

end RideQuery.Number.Binary64
