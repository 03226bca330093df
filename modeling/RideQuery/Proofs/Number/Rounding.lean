import Mathlib.Algebra.Order.Field.Power
import Mathlib.Data.Nat.Cast.Order.Field
import Mathlib.Data.Nat.Digits.Defs
import Mathlib.Data.Rat.Cast.Order
import Mathlib.Tactic.Linarith
import Mathlib.Tactic.Positivity
import RideQuery.Number.Binary64
import RideQuery.Proofs.Number.Numeral

/-!
# Rounding

Numbers are rounded to the nearest one.  Of two integers that are equally near, the even one is
taken.  A quotient becomes the nearest number of double precision, unless it is beyond their
range.
-/

namespace RideQuery.Number

/-! ## Nearest integers -/

/-- Integers that no other integer is nearer to a number than, the even one of two. -/
structure IsNearest (q : ℚ) (n : ℤ) : Prop where
  close : |q - n| ≤ 1 / 2
  even : |q - n| = 1 / 2 → Even n

theorem abs_neg_sub (a b : ℚ) : |-a - b| = |a - -b| := by
  rw [← abs_neg]
  ring_nf

namespace IsNearest

variable {q : ℚ} {m n : ℤ}

theorem neg (nearest : IsNearest q n) : IsNearest (-q) (-n) := by
  have same : |-q - ((-n : ℤ) : ℚ)| = |q - n| := by
    rw [Int.cast_neg, abs_neg_sub, neg_neg]
  constructor
  · rw [same]
    exact nearest.close
  · rw [same]
    exact fun tie => (nearest.even tie).neg

theorem close_le (nearest : IsNearest q n) (k : ℤ) : |q - n| ≤ |q - k| := by
  obtain rfl | other := eq_or_ne k n
  · exact le_rfl
  · have apart : (1 : ℚ) ≤ |(k : ℚ) - n| := by
      exact_mod_cast Int.one_le_abs (sub_ne_zero.mpr other)
    have path : |(k : ℚ) - n| ≤ |q - n| + |q - k| := by
      rw [abs_sub_comm q k, add_comm]
      exact abs_sub_le _ _ _
    linarith [nearest.close]

/-- Two integers next to each other are not both the even one. -/
theorem not_succ (left : IsNearest q n) (right : IsNearest q (n + 1)) : False := by
  have leftClose := abs_le.mp left.close
  have rightClose := abs_le.mp right.close
  push_cast at rightClose
  have middle : q - n = 1 / 2 := by linarith
  have leftEven : Even n := left.even (by rw [middle]; norm_num)
  have rightEven : Even (n + 1) := by
    refine right.even ?_
    have other : q - ((n + 1 : ℤ) : ℚ) = -(1 / 2) := by
      push_cast
      linarith
    rw [other]
    norm_num
  exact Int.not_even_iff_odd.mpr leftEven.add_one rightEven

/-- No number has two nearest integers. -/
theorem unique (left : IsNearest q m) (right : IsNearest q n) : m = n := by
  have leftClose := abs_le.mp left.close
  have rightClose := abs_le.mp right.close
  have above : m ≤ n + 1 := by
    have real : (m : ℚ) ≤ n + 1 := by linarith
    exact_mod_cast real
  have below : n ≤ m + 1 := by
    have real : (n : ℚ) ≤ m + 1 := by linarith
    exact_mod_cast real
  rcases lt_trichotomy m n with less | same | greater
  · obtain rfl : n = m + 1 := by omega
    exact absurd right left.not_succ
  · exact same
  · obtain rfl : m = n + 1 := by omega
    exact absurd left right.not_succ

theorem le_of_le (nearest : IsNearest q n) (bound : q ≤ m) : n ≤ m := by
  have close := abs_le.mp nearest.close
  have below : (n : ℚ) < m + 1 := by linarith
  exact Int.lt_add_one_iff.mp (by exact_mod_cast below)

theorem of_lt (near : |q - n| < 1 / 2) : IsNearest q n :=
  ⟨near.le, fun tie => absurd tie near.ne⟩

theorem of_even (even : Even n) (tie : |q - n| = 1 / 2) : IsNearest q n :=
  ⟨tie.le, fun _ => even⟩

end IsNearest

/-! ## Quotients -/

theorem div_eq_quotient_add {num den : ℕ} (positive : 0 < den) :
    (num : ℚ) / den = (num / den : ℕ) + (num % den : ℕ) / den := by
  have nonzero : (den : ℚ) ≠ 0 := Nat.cast_ne_zero.mpr positive.ne'
  rw [div_eq_iff nonzero, add_mul, div_mul_cancel₀ _ nonzero]
  exact_mod_cast (Nat.div_add_mod' num den).symm

/-- A rounded quotient is the nearest integer. -/
theorem isNearest_roundQuotient {num den : ℕ} (positive : 0 < den) :
    IsNearest (num / den) (roundQuotient num den) := by
  have size : (0 : ℚ) < den := Nat.cast_pos.mpr positive
  have proper := Nat.mod_lt num positive
  rw [div_eq_quotient_add positive]
  unfold roundQuotient
  dsimp only
  generalize num / den = quotient
  generalize num % den = rest at proper ⊢
  have fraction : (0 : ℚ) ≤ rest / den ∧ (rest : ℚ) / den < 1 := by
    constructor
    · positivity
    · rw [div_lt_one size]
      exact_mod_cast proper
  split
  · rename_i less
    have half : (rest : ℚ) / den < 1 / 2 := by
      rw [div_lt_div_iff₀ size two_pos]
      exact_mod_cast (by omega : rest * 2 < 1 * den)
    refine .of_lt (abs_lt.mpr ⟨?_, ?_⟩)
    · push_cast
      linarith
    · push_cast
      linarith
  · split
    · rename_i greater
      have half : 1 / 2 < (rest : ℚ) / den := by
        rw [div_lt_div_iff₀ two_pos size]
        exact_mod_cast (by omega : 1 * den < rest * 2)
      refine .of_lt (abs_lt.mpr ⟨?_, ?_⟩)
      · push_cast
        linarith
      · push_cast
        linarith
    · have half : (rest : ℚ) / den = 1 / 2 := by
        rw [div_eq_div_iff size.ne' two_ne_zero]
        exact_mod_cast (by omega : rest * 2 = 1 * den)
      have even : Even ((quotient + quotient % 2 : ℕ) : ℤ) := by
        rw [Int.even_coe_nat, Nat.even_iff]
        omega
      refine .of_even even ?_
      rw [half]
      rcases Nat.mod_two_eq_zero_or_one quotient with zero | one
      · rw [zero]
        norm_num
      · rw [one]
        push_cast
        norm_num

/-- A quotient scaled by a power of a base, as a quotient of natural numbers. -/
theorem scaled_ratio (base num den : ℕ) (power : ℤ) :
    let scaled :=
      if 0 ≤ power then (num * base ^ power.toNat, den) else (num, den * base ^ (-power).toNat)
    (scaled.1 : ℚ) / scaled.2 = num / den * base ^ power := by
  dsimp only
  split
  · rename_i nonneg
    obtain ⟨n, rfl⟩ := Int.eq_ofNat_of_zero_le nonneg
    rw [Int.toNat_natCast, zpow_natCast]
    push_cast
    ring
  · rename_i negative
    obtain ⟨n, rfl⟩ : ∃ n : ℕ, power = -n := ⟨(-power).toNat, by omega⟩
    rw [neg_neg, Int.toNat_natCast, zpow_neg, zpow_natCast]
    push_cast
    rw [div_mul_eq_div_div, div_eq_mul_inv (_ / _)]

theorem scaled_snd_pos {base : ℕ} (positive : 0 < base) (num : ℕ) {den : ℕ} (size : 0 < den)
    (power : ℤ) :
    0 < (if 0 ≤ power then (num * base ^ power.toNat, den)
      else (num, den * base ^ (-power).toNat)).2 := by
  split
  · exact size
  · exact Nat.mul_pos size (Nat.pow_pos positive)

theorem scaleByTwo_snd_pos (num : ℕ) {den : ℕ} (positive : 0 < den) (power : ℤ) :
    0 < (scaleByTwo num den power).2 :=
  scaled_snd_pos two_pos num positive power

theorem scaleByTwo_ratio (num den : ℕ) (power : ℤ) :
    ((scaleByTwo num den power).1 : ℚ) / (scaleByTwo num den power).2 =
      num / den * 2 ^ power := by
  have scaled := scaled_ratio 2 num den power
  rw [Nat.cast_ofNat] at scaled
  exact scaled

namespace Binary64

/-! ## Values -/

/-- The exact value of a finite number; the special ones count as nought. -/
def value : Binary64 → ℚ
  | .finite negative significand exponent => signed negative significand * 2 ^ exponent
  | _ => 0

/-- Finite numbers that double precision has. -/
inductive IsRepresentable : Binary64 → Prop
  | finite {negative : Bool} {significand : ℕ} {exponent : ℤ}
      (short : significand < 2 * hiddenBit) (least : minExponent ≤ exponent)
      (greatest : exponent ≤ maxExponent) :
      IsRepresentable (.finite negative significand exponent)

/-- Numbers of double precision that no other one is nearer to a number than. -/
structure IsClosest (q : ℚ) (x : Binary64) : Prop where
  representable : x.IsRepresentable
  close : ∀ y : Binary64, y.IsRepresentable → |q - x.value| ≤ |q - y.value|

theorem magnitude_snd_pos (significand : ℕ) (exponent : ℤ) :
    0 < (magnitude significand exponent).2 :=
  scaleByTwo_snd_pos significand one_pos exponent

theorem magnitude_ratio (significand : ℕ) (exponent : ℤ) :
    ((magnitude significand exponent).1 : ℚ) / (magnitude significand exponent).2 =
      significand * 2 ^ exponent := by
  rw [magnitude, scaleByTwo_ratio, Nat.cast_one, div_one]

theorem cast_signed (negative : Bool) (n : ℕ) :
    (signed negative n : ℚ) = if negative then -(n : ℚ) else n := by
  cases negative with
  | false => rfl
  | true =>
      rw [signed, if_pos rfl, if_pos rfl]
      push_cast
      rfl

theorem value_finite (negative : Bool) (significand : ℕ) (exponent : ℤ) :
    (finite negative significand exponent).value =
      if negative then -((significand : ℚ) * 2 ^ exponent) else significand * 2 ^ exponent := by
  rw [value, cast_signed]
  split
  · rw [neg_mul]
  · rfl

theorem abs_value_finite (negative : Bool) (significand : ℕ) (exponent : ℤ) :
    |(finite negative significand exponent).value| = significand * 2 ^ exponent := by
  have nonneg : (0 : ℚ) ≤ significand * 2 ^ exponent := by positivity
  rw [value_finite]
  split
  · rw [abs_neg, abs_of_nonneg nonneg]
  · exact abs_of_nonneg nonneg

theorem isNearest_signed {q : ℚ} {n : ℕ} (nearest : IsNearest q n) (negative : Bool) :
    IsNearest (if negative then -q else q) (signed negative n) := by
  cases negative with
  | false => exact nearest
  | true => exact nearest.neg

/-! ## Rounding to integers -/

/-- A finite number is rounded to the nearest integer. -/
theorem round_finite_eq_ok_iff {negative : Bool} {significand : ℕ} {exponent n : ℤ} :
    (finite negative significand exponent).round = .ok n ↔
      IsNearest (finite negative significand exponent).value n := by
  have nearest : IsNearest (finite negative significand exponent).value
      (signed negative (roundQuotient (magnitude significand exponent).1
        (magnitude significand exponent).2)) := by
    have unsigned : IsNearest _ (roundQuotient (magnitude significand exponent).1 _) :=
      isNearest_roundQuotient (magnitude_snd_pos significand exponent)
    rw [magnitude_ratio] at unsigned
    rw [value_finite]
    exact isNearest_signed unsigned negative
  constructor
  · intro rounded
    rw [← Except.ok.inj rounded]
    exact nearest
  · intro other
    rw [← nearest.unique other]
    rfl

theorem IsRepresentable.exists_round {x : Binary64} (representable : x.IsRepresentable) :
    ∃ n, x.round = .ok n ∧ IsNearest x.value n := by
  cases representable with
  | finite => exact ⟨_, rfl, round_finite_eq_ok_iff.mp rfl⟩

/-! ## Exponents -/

theorem hiddenBit_mul_zpow (exponent : ℤ) :
    (hiddenBit : ℚ) * 2 ^ exponent = 2 ^ (52 + exponent) := by
  rw [zpow_add₀ two_ne_zero]
  norm_num [hiddenBit]

theorem twice_hiddenBit_mul_zpow (exponent : ℤ) :
    2 * (hiddenBit : ℚ) * 2 ^ exponent = 2 ^ (53 + exponent) := by
  rw [zpow_add₀ two_ne_zero]
  norm_num [hiddenBit]

/-- Exponents at which a number has a significand of 53 bits, or fewer at the least one. -/
structure IsExponentOf (q : ℚ) (exponent : ℤ) : Prop where
  least : minExponent ≤ exponent
  below : q < 2 * hiddenBit * 2 ^ exponent
  normal : minExponent < exponent → hiddenBit * 2 ^ exponent ≤ q

theorem isExponentOf_max {q : ℚ} {exponent : ℤ} (reached : hiddenBit * 2 ^ exponent ≤ q)
    (below : q < 2 * hiddenBit * 2 ^ exponent) :
    IsExponentOf q (max exponent minExponent) where
  least := le_max_right ..
  below := by
    refine below.trans_le ?_
    rw [twice_hiddenBit_mul_zpow, twice_hiddenBit_mul_zpow]
    exact zpow_le_zpow_right₀ one_le_two (by omega)
  normal := by
    intro above
    rw [max_eq_left (by omega : minExponent ≤ exponent)]
    exact reached

theorem zpow_log2_bounds {n : ℕ} (nonzero : n ≠ 0) :
    (2 : ℚ) ^ (n.log2 : ℤ) ≤ n ∧ (n : ℚ) < 2 ^ ((n.log2 : ℤ) + 1) := by
  constructor
  · rw [zpow_natCast]
    exact_mod_cast Nat.log2_self_le nonzero
  · rw [← Nat.cast_add_one, zpow_natCast]
    exact_mod_cast Nat.lt_log2_self

/-- The integer parts of logarithms tell the exponent of a quotient up to one. -/
theorem log2_sub_bounds {num den : ℕ} (nonzero : num ≠ 0) (positive : 0 < den) :
    (2 : ℚ) ^ ((num.log2 : ℤ) - den.log2 - 1) ≤ num / den ∧
      (num : ℚ) / den < 2 ^ ((num.log2 : ℤ) - den.log2 + 1) := by
  have size : (0 : ℚ) < den := Nat.cast_pos.mpr positive
  obtain ⟨numLeast, numBelow⟩ := zpow_log2_bounds nonzero
  obtain ⟨denLeast, denBelow⟩ := zpow_log2_bounds positive.ne'
  constructor
  · rw [le_div_iff₀ size]
    calc (2 : ℚ) ^ ((num.log2 : ℤ) - den.log2 - 1) * den
        ≤ 2 ^ ((num.log2 : ℤ) - den.log2 - 1) * 2 ^ ((den.log2 : ℤ) + 1) :=
          mul_le_mul_of_nonneg_left denBelow.le (by positivity)
      _ = 2 ^ (num.log2 : ℤ) := by
          rw [← zpow_add₀ two_ne_zero]
          congr 1
          omega
      _ ≤ num := numLeast
  · rw [div_lt_iff₀ size]
    calc (num : ℚ) < 2 ^ ((num.log2 : ℤ) + 1) := numBelow
      _ = 2 ^ ((num.log2 : ℤ) - den.log2 + 1) * 2 ^ (den.log2 : ℤ) := by
          rw [← zpow_add₀ two_ne_zero]
          congr 1
          omega
      _ ≤ 2 ^ ((num.log2 : ℤ) - den.log2 + 1) * den :=
          mul_le_mul_of_nonneg_left denLeast (by positivity)

theorem isExponentOf_exponentOf {num den : ℕ} (nonzero : num ≠ 0) (positive : 0 < den) :
    IsExponentOf (num / den) (exponentOf num den) := by
  obtain ⟨least, below⟩ := log2_sub_bounds nonzero positive
  unfold exponentOf
  dsimp only
  generalize lowest : (num.log2 : ℤ) - den.log2 - 53 = low
  -- The quotient at the lowest exponent that it can have decides between that and the next.
  have scaled : 2 * hiddenBit ≤ (scaleByTwo num den (-low)).1 / (scaleByTwo num den (-low)).2 ↔
      2 * hiddenBit * (2 : ℚ) ^ low ≤ num / den := by
    have size : (0 : ℚ) < (scaleByTwo num den (-low)).2 :=
      Nat.cast_pos.mpr (scaleByTwo_snd_pos num positive _)
    rw [Nat.le_div_iff_mul_le (scaleByTwo_snd_pos num positive _), ← @Nat.cast_le ℚ,
      Nat.cast_mul, ← le_div_iff₀ size, scaleByTwo_ratio, zpow_neg, ← div_eq_mul_inv,
      le_div_iff₀ (by positivity)]
    push_cast
    rfl
  split
  · rename_i reached
    have above := scaled.mp reached
    rw [twice_hiddenBit_mul_zpow] at above
    refine isExponentOf_max ?_ ?_
    · rw [hiddenBit_mul_zpow]
      exact (zpow_le_zpow_right₀ one_le_two (by omega)).trans above
    · rw [twice_hiddenBit_mul_zpow]
      exact below.trans_le (zpow_le_zpow_right₀ one_le_two (by omega))
  · rename_i missed
    refine isExponentOf_max ?_ (not_le.mp (mt scaled.mpr missed))
    rw [hiddenBit_mul_zpow]
    exact (zpow_le_zpow_right₀ one_le_two (by omega)).trans least

/-! ## Rounding to double precision -/

theorem value_neg (x : Binary64) : (-x).value = -x.value := by
  cases x with
  | finite negative significand exponent =>
      change (signed (!negative) significand : ℚ) * _ = -((signed negative significand : ℚ) * _)
      cases negative <;> simp [signed]
  | nan => exact neg_zero.symm
  | infinity negative => exact neg_zero.symm

theorem IsRepresentable.neg {x : Binary64} (representable : x.IsRepresentable) :
    (-x).IsRepresentable := by
  cases representable with
  | finite short least greatest => exact .finite short least greatest

theorem abs_sub_mul_zpow (q : ℚ) (n exponent : ℤ) :
    |q - n * 2 ^ exponent| = |q / 2 ^ exponent - n| * 2 ^ exponent := by
  have size : (0 : ℚ) < 2 ^ exponent := by positivity
  rw [← abs_of_pos size, ← abs_mul, abs_of_pos size, sub_mul, div_mul_cancel₀ _ size.ne']

/-- No number of double precision is nearer than the nearest multiple of the last place. -/
theorem IsExponentOf.abs_sub_le {q : ℚ} {exponent n : ℤ} (fits : IsExponentOf q exponent)
    (nearest : IsNearest (q / 2 ^ exponent) n) {y : Binary64}
    (representable : y.IsRepresentable) : |q - n * 2 ^ exponent| ≤ |q - y.value| := by
  have multiple : ∀ k : ℤ, |q - n * 2 ^ exponent| ≤ |q - k * 2 ^ exponent| := by
    intro k
    rw [abs_sub_mul_zpow, abs_sub_mul_zpow]
    exact mul_le_mul_of_nonneg_right (nearest.close_le k) (by positivity)
  cases representable with
  | @finite negative significand own short least greatest =>
      rcases le_or_gt exponent own with coarser | finer
      · obtain ⟨shift, rfl⟩ := Int.le.dest coarser
        have other := multiple (signed negative significand * 2 ^ shift)
        rw [value, zpow_add₀ two_ne_zero, zpow_natCast]
        push_cast at other
        rw [mul_assoc, mul_comm (2 ^ shift : ℚ)] at other
        exact other
      · -- A finer number lies below the first normal significand, and that below the quotient.
        have normal := fits.normal (least.trans_lt finer)
        have lower : (finite negative significand own).value ≤ hiddenBit * 2 ^ exponent := by
          calc (finite negative significand own).value
              ≤ significand * 2 ^ own := by
                rw [← abs_value_finite negative]
                exact le_abs_self _
            _ ≤ 2 * hiddenBit * 2 ^ own := by
                refine mul_le_mul_of_nonneg_right ?_ (by positivity)
                exact_mod_cast short.le
            _ ≤ hiddenBit * 2 ^ exponent := by
                rw [twice_hiddenBit_mul_zpow, hiddenBit_mul_zpow]
                exact zpow_le_zpow_right₀ one_le_two (by omega)
        have first := multiple hiddenBit
        rw [Int.cast_natCast, abs_of_nonneg (sub_nonneg.mpr normal)] at first
        calc |q - n * 2 ^ exponent| ≤ q - hiddenBit * 2 ^ exponent := first
          _ ≤ q - (finite negative significand own).value := by linarith
          _ ≤ |q - (finite negative significand own).value| := le_abs_self _

theorem representable_assemble {negative : Bool} {significand : ℕ} {exponent : ℤ}
    (short : significand ≤ 2 * hiddenBit) (least : minExponent ≤ exponent)
    (inRange : assemble negative significand exponent ≠ .infinity negative) :
    (assemble negative significand exponent).IsRepresentable ∧
      (assemble negative significand exponent).value =
        signed negative significand * 2 ^ exponent ∧
      exponent ≤ maxExponent := by
  rw [assemble] at inRange ⊢
  by_cases carried : significand = 2 * hiddenBit
  · rw [if_pos carried] at inRange ⊢
    dsimp only at inRange ⊢
    split at inRange
    · exact absurd rfl inRange
    · rename_i within
      rw [if_neg within]
      refine ⟨.finite (by decide) (by omega) (not_lt.mp within), ?_, by omega⟩
      rw [value, cast_signed, cast_signed, carried, zpow_add_one₀ two_ne_zero]
      push_cast
      split <;> ring
  · rw [if_neg carried] at inRange ⊢
    dsimp only at inRange ⊢
    split at inRange
    · exact absurd rfl inRange
    · rename_i within
      rw [if_neg within]
      exact ⟨.finite (by omega) least (not_lt.mp within), rfl, not_lt.mp within⟩

theorem nearest_significand (num : ℕ) {den : ℕ} (positive : 0 < den) (exponent : ℤ) :
    IsNearest (num / den / 2 ^ exponent)
      (roundQuotient (scaleByTwo num den (-exponent)).1 (scaleByTwo num den (-exponent)).2) := by
  have nearest : IsNearest _ (roundQuotient (scaleByTwo num den (-exponent)).1 _) :=
    isNearest_roundQuotient (scaleByTwo_snd_pos num positive (-exponent))
  rw [scaleByTwo_ratio, zpow_neg, ← div_eq_mul_inv] at nearest
  exact nearest

theorem IsExponentOf.significand_le {q : ℚ} {exponent : ℤ} {significand : ℕ}
    (fits : IsExponentOf q exponent) (nearest : IsNearest (q / 2 ^ exponent) significand) :
    significand ≤ 2 * hiddenBit := by
  have below : q / 2 ^ exponent ≤ ((2 * hiddenBit : ℕ) : ℤ) := by
    rw [div_le_iff₀ (by positivity)]
    push_cast
    exact fits.below.le
  exact_mod_cast nearest.le_of_le below

theorem value_zero (negative : Bool) : (zero negative).value = 0 := by
  rw [zero, value, cast_signed, Nat.cast_zero, neg_zero, ite_self, zero_mul]

theorem representable_zero (negative : Bool) : (zero negative).IsRepresentable :=
  .finite (by decide) le_rfl (by decide)

/-- A quotient in the range of double precision becomes the closest number of it. -/
theorem isClosest_ofRatio {negative : Bool} {num den : ℕ} (positive : 0 < den)
    (inRange : ofRatio negative num den ≠ .infinity negative) :
    IsClosest ((signed negative num : ℚ) / den) (ofRatio negative num den) := by
  rw [ofRatio] at inRange ⊢
  by_cases none : num = 0
  · rw [if_pos none]
    refine ⟨representable_zero negative, fun y _ => ?_⟩
    rw [value_zero, none, cast_signed, Nat.cast_zero, neg_zero, ite_self, zero_div, sub_self,
      abs_zero]
    exact abs_nonneg _
  · rw [if_neg none] at inRange ⊢
    dsimp only at inRange ⊢
    have fits := isExponentOf_exponentOf none positive
    have nearest := nearest_significand num positive (exponentOf num den)
    have short := fits.significand_le nearest
    obtain ⟨representable, own, _⟩ := representable_assemble short fits.least inRange
    refine ⟨representable, fun y other => ?_⟩
    rw [own, cast_signed, cast_signed]
    cases negative with
    | false => exact fits.abs_sub_le nearest other
    | true =>
        have opposite := fits.abs_sub_le nearest other.neg
        rw [value_neg] at opposite
        rw [if_pos rfl, if_pos rfl, neg_div, neg_mul, abs_neg_sub, neg_neg, abs_neg_sub]
        exact opposite

/-- The greatest number of double precision. -/
def greatest : ℚ :=
  (2 * hiddenBit - 1) * 2 ^ maxExponent

/-- The least number that is too great: it is halfway from the greatest to the next power of two. -/
def overflow : ℚ :=
  (2 * hiddenBit - 1 / 2) * 2 ^ maxExponent

theorem greatest_lt_overflow : greatest < overflow := by
  have size : (0 : ℚ) < 2 ^ maxExponent := by positivity
  rw [greatest, overflow]
  linarith

theorem overflow_lt : overflow < 2 * hiddenBit * 2 ^ maxExponent := by
  have size : (0 : ℚ) < 2 ^ maxExponent := by positivity
  rw [overflow]
  linarith

theorem IsExponentOf.le_maxExponent {q : ℚ} {exponent : ℤ} (fits : IsExponentOf q exponent)
    (small : q < overflow) : exponent ≤ maxExponent := by
  by_contra beyond
  have normal := fits.normal ((by decide : minExponent < maxExponent).trans (not_le.mp beyond))
  have further : (hiddenBit : ℚ) * 2 ^ (maxExponent + 1) ≤ hiddenBit * 2 ^ exponent :=
    mul_le_mul_of_nonneg_left (zpow_le_zpow_right₀ one_le_two (by omega)) (by positivity)
  have less : overflow < hiddenBit * 2 ^ (maxExponent + 1) := by
    have size : (0 : ℚ) < 2 ^ maxExponent := by positivity
    rw [overflow, zpow_add_one₀ two_ne_zero]
    linarith
  linarith

theorem assemble_ne_infinity {negative sign : Bool} {significand : ℕ} {exponent : ℤ}
    (within : exponent ≤ maxExponent)
    (uncarried : exponent = maxExponent → significand ≠ 2 * hiddenBit) :
    assemble negative significand exponent ≠ .infinity sign := by
  rw [assemble]
  by_cases carried : significand = 2 * hiddenBit
  · have below : exponent ≠ maxExponent := fun same => uncarried same carried
    rw [if_pos carried]
    dsimp only
    rw [if_neg (by omega)]
    nofun
  · rw [if_neg carried]
    dsimp only
    rw [if_neg (not_lt.mpr within)]
    nofun

/-- A quotient that is not too great is in the range. -/
theorem ofRatio_ne_infinity {negative : Bool} {num den : ℕ} (positive : 0 < den)
    (small : (num : ℚ) / den < overflow) (sign : Bool) :
    ofRatio negative num den ≠ .infinity sign := by
  rw [ofRatio]
  by_cases none : num = 0
  · rw [if_pos none]
    nofun
  · rw [if_neg none]
    have fits := isExponentOf_exponentOf none positive
    have nearest := nearest_significand num positive (exponentOf num den)
    dsimp only
    refine assemble_ne_infinity (fits.le_maxExponent small) ?_
    intro last carried
    -- At the last exponent the quotient is more than a half away from the next power of two.
    have below : (num : ℚ) / den / 2 ^ exponentOf num den < 2 * hiddenBit - 1 / 2 := by
      rw [div_lt_iff₀ (by positivity), last]
      exact small
    have close := (abs_le.mp nearest.close).1
    rw [carried] at close
    push_cast at close
    linarith

/-! ## Rounding to tenths -/

theorem IsRepresentable.abs_value_le {x : Binary64} (representable : x.IsRepresentable) :
    |x.value| ≤ greatest := by
  cases representable with
  | @finite negative significand exponent short least within =>
      rw [abs_value_finite, greatest]
      have bound : (significand : ℚ) ≤ 2 * hiddenBit - 1 := by
        rw [le_sub_iff_add_le]
        exact_mod_cast short
      exact mul_le_mul bound (zpow_le_zpow_right₀ one_le_two within) (by positivity)
        ((Nat.cast_nonneg _).trans bound)

theorem exists_int_eq_greatest : ∃ k : ℤ, (k : ℚ) = greatest := by
  obtain ⟨power, own⟩ : ∃ power : ℕ, maxExponent = power := ⟨971, rfl⟩
  refine ⟨(2 * hiddenBit - 1) * 2 ^ power, ?_⟩
  rw [greatest, own, zpow_natCast]
  push_cast
  rfl

/-- The tenths nearest to a number in the range are in the range. -/
theorem div_ten_le_greatest {q : ℚ} {tenths : ℕ} (nearest : IsNearest (10 * q) tenths)
    (bounded : q ≤ greatest) : (tenths : ℚ) / (10 : ℕ) ≤ greatest := by
  obtain ⟨whole, same⟩ := exists_int_eq_greatest
  have within : 10 * q ≤ (10 * whole : ℤ) := by
    push_cast
    linarith
  have bound : ((tenths : ℤ) : ℚ) ≤ (10 * whole : ℤ) := Int.cast_le.mpr (nearest.le_of_le within)
  rw [div_le_iff₀ (by norm_num)]
  push_cast at bound ⊢
  linarith

/-- A number is rounded to the nearest tenth, and that to the closest number there is. -/
theorem IsRepresentable.exists_tenths {x : Binary64} (representable : x.IsRepresentable) :
    ∃ tenths : ℤ, IsNearest (10 * x.value) tenths ∧
      IsClosest ((tenths : ℚ) / 10) x.roundToTenth := by
  cases representable with
  | @finite negative significand exponent short least within =>
      have representable : (Binary64.finite negative significand exponent).IsRepresentable :=
        .finite short least within
      generalize known : magnitude significand exponent = quotient
      obtain ⟨num, den⟩ := quotient
      have positive : 0 < den := by
        have size := magnitude_snd_pos significand exponent
        rwa [known] at size
      have ratio : (num : ℚ) / den = significand * 2 ^ exponent := by
        have own := magnitude_ratio significand exponent
        rwa [known] at own
      have unsigned : IsNearest (10 * (num / den)) (roundQuotient (10 * num) den) := by
        have nearest : IsNearest _ (roundQuotient (10 * num) den) :=
          isNearest_roundQuotient positive
        rwa [Nat.cast_mul, Nat.cast_ofNat, mul_div_assoc] at nearest
      have bounded : (num : ℚ) / den ≤ greatest := by
        rw [ratio, ← abs_value_finite negative]
        exact representable.abs_value_le
      have small := div_ten_le_greatest unsigned bounded
      have closest : IsClosest _ (ofRatio negative (roundQuotient (10 * num) den) 10) :=
        isClosest_ofRatio (by decide)
          (ofRatio_ne_infinity (by decide) (small.trans_lt greatest_lt_overflow) negative)
      refine ⟨signed negative (roundQuotient (10 * num) den), ?_, ?_⟩
      · have nearest := isNearest_signed unsigned negative
        rw [ratio] at nearest
        rw [value_finite, mul_ite, mul_neg]
        exact nearest
      · rw [roundToTenth, known]
        exact closest

/-! ## Integers in the range -/

/-- Integers in the range of double precision have few digits. -/
theorem digitCount_le_maxDigits {n : ℕ} (inRange : (n : ℚ) < overflow) :
    digitCount n ≤ maxDigits := by
  have small := inRange.trans overflow_lt
  rw [twice_hiddenBit_mul_zpow] at small
  obtain ⟨bits, own, few⟩ : ∃ bits : ℕ, 53 + maxExponent = bits ∧ bits ≤ maxDigits :=
    ⟨1024, by decide, by decide⟩
  rw [own, zpow_natCast] at small
  apply digitCount_le_of_lt
  calc n < 2 ^ bits := by exact_mod_cast small
    _ ≤ 10 ^ bits := Nat.pow_le_pow_left (by decide) bits
    _ ≤ 10 ^ maxDigits := Nat.pow_le_pow_right (by decide) few

theorem truncate_finite (negative : Bool) (significand : ℕ) (exponent : ℤ) :
    (finite negative significand exponent).truncate =
      .ok (signed negative
        ((magnitude significand exponent).1 / (magnitude significand exponent).2)) :=
  rfl

theorem natAbs_signed (negative : Bool) (n : ℕ) : (signed negative n).natAbs = n := by
  cases negative <;> simp [signed]

/-- What is left of a number of double precision without its fraction can be written. -/
theorem IsRepresentable.exists_truncate {x : Binary64} (representable : x.IsRepresentable) :
    ∃ n, x.truncate = .ok n ∧ digitCount n.natAbs ≤ maxDigits := by
  have bounded := representable.abs_value_le
  cases representable with
  | @finite negative significand exponent short least within =>
      refine ⟨_, truncate_finite .., digitCount_le_maxDigits ?_⟩
      rw [natAbs_signed]
      rw [abs_value_finite, ← magnitude_ratio] at bounded
      calc (((magnitude significand exponent).1 / (magnitude significand exponent).2 : ℕ) : ℚ)
          ≤ (magnitude significand exponent).1 / (magnitude significand exponent).2 :=
            Nat.cast_div_le
        _ ≤ greatest := bounded
        _ < overflow := greatest_lt_overflow

theorem mul_finite (negative other : Bool) (significand significand' : ℕ)
    (exponent exponent' : ℤ) :
    finite negative significand exponent * finite other significand' exponent' =
      ofRatio (negative != other) (magnitude (significand * significand') (exponent + exponent')).1
        (magnitude (significand * significand') (exponent + exponent')).2 :=
  rfl

/-- The factors of a product that is finite are finite. -/
theorem exists_finite_of_mul {x y : Binary64} (finite : ∃ n, (x * y).truncate = .ok n) :
    (∃ negative significand exponent, x = .finite negative significand exponent) ∧
      ∃ negative significand exponent, y = .finite negative significand exponent := by
  obtain ⟨n, truncated⟩ := finite
  cases x with
  | nan => contradiction
  | infinity negative =>
      cases y with
      | nan => contradiction
      | infinity other => contradiction
      | finite other significand exponent =>
          change (if significand = 0 then nan else infinity _).truncate = _ at truncated
          split at truncated <;> contradiction
  | finite negative significand exponent =>
      cases y with
      | nan => contradiction
      | infinity other =>
          change (if significand = 0 then nan else infinity _).truncate = _ at truncated
          split at truncated <;> contradiction
      | finite other significand' exponent' => exact ⟨⟨_, _, _, rfl⟩, ⟨_, _, _, rfl⟩⟩

/-- A product that is finite is a number of double precision. -/
theorem isRepresentable_mul {x y : Binary64} (finite : ∃ n, (x * y).truncate = .ok n) :
    (x * y).IsRepresentable := by
  obtain ⟨⟨negative, significand, exponent, rfl⟩, other, significand', exponent', rfl⟩ :=
    exists_finite_of_mul finite
  obtain ⟨n, truncated⟩ := finite
  rw [mul_finite] at truncated ⊢
  apply (isClosest_ofRatio (magnitude_snd_pos _ _) _).representable
  intro infinite
  rw [infinite] at truncated
  contradiction

end Binary64

end RideQuery.Number
