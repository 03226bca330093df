import RideQuery.Number.DecimalText
import RideQuery.Proofs.Number.Rounding

/-!
# Canonical numbers of double precision

Every number of double precision has one form in which its significand is as long as it can
be.  A quotient becomes a number in this form, and which one depends on its value only; a
number in this form becomes itself.
-/

namespace RideQuery.Number.Binary64

variable {negative : Bool} {significand num den : ℕ} {exponent : ℤ} {q : ℚ}

/-! ## Canonical forms -/

/--
Numbers in their canonical form.  The significand of a finite one has as many bits as it can
have, which is fewer than 53 only at the least exponent.
-/
inductive IsCanonical : Binary64 → Prop
  | nan : IsCanonical .nan
  | infinity (negative : Bool) : IsCanonical (.infinity negative)
  | finite {negative : Bool} {significand : ℕ} {exponent : ℤ}
      (short : significand < 2 * hiddenBit) (least : minExponent ≤ exponent)
      (greatest : exponent ≤ maxExponent)
      (normal : minExponent < exponent → hiddenBit ≤ significand) :
      IsCanonical (.finite negative significand exponent)

theorem IsCanonical.neg {x : Binary64} (canonical : x.IsCanonical) : (-x).IsCanonical := by
  cases canonical with
  | nan => exact .nan
  | infinity negative => exact .infinity !negative
  | finite short least greatest normal => exact .finite short least greatest normal

theorem isCanonical_zero (negative : Bool) : (zero negative).IsCanonical :=
  .finite (by decide) le_rfl (by decide) fun below => absurd below (lt_irrefl _)

/-- The only canonical form of nought. -/
theorem IsCanonical.eq_zero (canonical : (Binary64.finite negative 0 exponent).IsCanonical) :
    Binary64.finite negative 0 exponent = zero negative := by
  cases canonical with
  | finite _ least _ normal =>
      rcases least.eq_or_lt with same | above
      · rw [zero, same]
      · exact absurd (normal above) (by decide)

/-! ## Rounding of quotients -/

/-- No quotient has two exponents. -/
theorem IsExponentOf.unique {other : ℤ} (left : IsExponentOf q exponent)
    (right : IsExponentOf q other) : exponent = other := by
  -- The greater of two exponents would be normal, and the quotient below it.
  have below : ∀ {low high : ℤ}, IsExponentOf q low → IsExponentOf q high → ¬low < high := by
    intro low high lower higher less
    have reached := higher.normal (lower.least.trans_lt less)
    have bound := lower.below
    rw [hiddenBit_mul_zpow] at reached
    rw [twice_hiddenBit_mul_zpow] at bound
    have apart : (2 : ℚ) ^ (53 + low) ≤ 2 ^ (52 + high) :=
      zpow_le_zpow_right₀ one_le_two (by omega)
    linarith
  exact le_antisymm (not_lt.mp (below right left)) (not_lt.mp (below left right))

/-- A positive quotient is rounded at its exponent. -/
theorem ofRatio_eq_assemble (nonzero : num ≠ 0) (positive : 0 < den)
    (fits : IsExponentOf (num / den) exponent)
    (nearest : IsNearest (num / den / 2 ^ exponent) significand) :
    ofRatio negative num den = assemble negative significand exponent := by
  have same := (isExponentOf_exponentOf nonzero positive).unique fits
  rw [ofRatio, if_neg nonzero, same]
  dsimp only
  congr 1
  exact_mod_cast (nearest_significand num positive exponent).unique nearest

/-- What a quotient becomes depends on its value only. -/
theorem ofRatio_congr {other below : ℕ} (positive : 0 < den) (positiveOther : 0 < below)
    (same : (num : ℚ) / den = other / below) :
    ofRatio negative num den = ofRatio negative other below := by
  by_cases none : num = 0
  · have noneOther : other = 0 := by
      rw [none, Nat.cast_zero, zero_div, eq_comm, div_eq_zero_iff, Nat.cast_eq_zero,
        Nat.cast_eq_zero] at same
      exact same.resolve_right positiveOther.ne'
    rw [ofRatio, ofRatio, if_pos none, if_pos noneOther]
  · have some : other ≠ 0 := by
      rintro rfl
      rw [Nat.cast_zero, zero_div, div_eq_zero_iff, Nat.cast_eq_zero, Nat.cast_eq_zero] at same
      exact same.elim none positive.ne'
    have fits := isExponentOf_exponentOf some positiveOther
    have nearest := nearest_significand other positiveOther (exponentOf other below)
    rw [← same] at fits nearest
    rw [ofRatio_eq_assemble none positive fits nearest, ofRatio, if_neg some]

/-- A number in canonical form is not changed by rounding. -/
theorem IsCanonical.ofRatio_eq
    (canonical : (Binary64.finite negative significand exponent).IsCanonical)
    (positive : 0 < den) (same : (num : ℚ) / den = significand * 2 ^ exponent) :
    ofRatio negative num den = .finite negative significand exponent := by
  by_cases none : significand = 0
  · subst none
    rw [Nat.cast_zero, zero_mul, div_eq_zero_iff, Nat.cast_eq_zero, Nat.cast_eq_zero] at same
    rw [canonical.eq_zero, ofRatio, if_pos (same.resolve_right positive.ne')]
  · have size : (0 : ℚ) < 2 ^ exponent := by positivity
    have nonzero : num ≠ 0 := by
      rintro rfl
      rw [Nat.cast_zero, zero_div, eq_comm, mul_eq_zero, Nat.cast_eq_zero] at same
      exact same.elim none size.ne'
    cases canonical with
    | finite short least greatest normal =>
        have fits : IsExponentOf ((num : ℚ) / den) exponent := by
          rw [same]
          refine ⟨least, ?_, ?_⟩
          · exact mul_lt_mul_of_pos_right (by exact_mod_cast short) size
          · intro above
            exact mul_le_mul_of_nonneg_right (by exact_mod_cast normal above) size.le
        have nearest : IsNearest ((num : ℚ) / den / 2 ^ exponent) significand := by
          rw [same, mul_div_cancel_right₀ _ size.ne']
          apply IsNearest.of_lt
          rw [Int.cast_natCast, sub_self, abs_zero]
          norm_num
        rw [ofRatio_eq_assemble nonzero positive fits nearest, assemble, if_neg short.ne]
        dsimp only
        rw [if_neg (not_lt.mpr greatest)]

theorem isCanonical_assemble (short : significand ≤ 2 * hiddenBit)
    (least : minExponent ≤ exponent)
    (normal : minExponent < exponent → hiddenBit ≤ significand) :
    (assemble negative significand exponent).IsCanonical := by
  rw [assemble]
  by_cases carried : significand = 2 * hiddenBit
  · rw [if_pos carried]
    dsimp only
    split
    · exact .infinity negative
    · exact .finite (by decide) (by omega) (not_lt.mp ‹_›) fun _ => le_rfl
  · rw [if_neg carried]
    dsimp only
    split
    · exact .infinity negative
    · exact .finite (by omega) least (not_lt.mp ‹_›) normal

/-- A quotient becomes a number in canonical form. -/
theorem isCanonical_ofRatio (positive : 0 < den) : (ofRatio negative num den).IsCanonical := by
  rw [ofRatio]
  by_cases none : num = 0
  · rw [if_pos none]
    exact isCanonical_zero negative
  · rw [if_neg none]
    dsimp only
    have fits := isExponentOf_exponentOf none positive
    have nearest := nearest_significand num positive (exponentOf num den)
    refine isCanonical_assemble (fits.significand_le nearest) fits.least ?_
    intro above
    have reached : -((num : ℚ) / den / 2 ^ exponentOf num den) ≤ ((-hiddenBit : ℤ) : ℚ) := by
      push_cast
      rw [neg_le_neg_iff, le_div_iff₀ (by positivity)]
      exact fits.normal above
    have bound := nearest.neg.le_of_le reached
    omega

/-- A decimal is read as a number in canonical form. -/
theorem isCanonical_ofDecimal (negative : Bool) (digits : ℕ) (exponent : ℤ) :
    (ofDecimal negative digits exponent).IsCanonical := by
  unfold ofDecimal
  dsimp only
  split
  · exact isCanonical_zero negative
  · split
    · exact .infinity negative
    · split
      · exact isCanonical_ofRatio one_pos
      · exact isCanonical_ofRatio (Nat.pow_pos (by decide))

/-! ## Signs -/

theorem neg_finite (negative : Bool) (significand : ℕ) (exponent : ℤ) :
    -finite negative significand exponent = finite (!negative) significand exponent :=
  rfl

theorem assemble_true (significand : ℕ) (exponent : ℤ) :
    assemble true significand exponent = -assemble false significand exponent := by
  unfold assemble
  generalize (if significand = 2 * hiddenBit then (hiddenBit, exponent + 1)
    else (significand, exponent)) = parts
  dsimp only
  split <;> rfl

/-- The sign of a quotient is the sign of the number that it becomes. -/
theorem ofRatio_true (num den : ℕ) : ofRatio true num den = -ofRatio false num den := by
  unfold ofRatio
  split
  · rfl
  · exact assemble_true ..

theorem ofDecimal_true (digits : ℕ) (exponent : ℤ) :
    ofDecimal true digits exponent = -ofDecimal false digits exponent := by
  unfold ofDecimal
  dsimp only
  split
  · rfl
  · split
    · rfl
    · split
      · exact ofRatio_true ..
      · exact ofRatio_true ..

/-- The digits of a decimal that is read as a finite number tell all of it but the sign. -/
theorem ofDecimal_of_unsigned {digits : ℕ} {power : ℤ}
    (reads : ofDecimal false digits power = finite false significand exponent)
    (negative : Bool) :
    ofDecimal negative digits power = finite negative significand exponent := by
  cases negative with
  | false => exact reads
  | true => rw [ofDecimal_true, reads, neg_finite, Bool.not_false]

end RideQuery.Number.Binary64
