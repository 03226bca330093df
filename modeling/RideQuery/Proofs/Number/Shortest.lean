import RideQuery.Proofs.Number.Canonical

/-!
# Shortest decimals

A number of double precision is displayed by the shortest decimal that reads back.  Which
number a decimal is read as depends on its value only, so that the display stands for the
number however it is laid out.
-/

namespace RideQuery.Number

/-! ## Decimal points -/

/-- Powers of ten just above a number. -/
structure IsPointOf (q : ℚ) (point : ℤ) : Prop where
  reached : 10 ^ (point - 1) ≤ q
  below : q < 10 ^ point

namespace IsPointOf

variable {q : ℚ} {point other : ℤ}

theorem pos (fits : IsPointOf q point) : 0 < q :=
  (by positivity : (0 : ℚ) < 10 ^ (point - 1)).trans_le fits.reached

/-- No number has two decimal points. -/
theorem unique (left : IsPointOf q point) (right : IsPointOf q other) : point = other := by
  have least : ∀ {low high : ℤ}, IsPointOf q low → IsPointOf q high → high ≤ low := by
    intro low high lower higher
    have apart := higher.reached.trans_lt lower.below
    rw [zpow_lt_zpow_iff_right₀ (by norm_num)] at apart
    omega
  exact le_antisymm (least right left) (least left right)

theorem mul_zpow (fits : IsPointOf q point) (power : ℤ) :
    IsPointOf (q * 10 ^ power) (point + power) := by
  have size : (0 : ℚ) < 10 ^ power := by positivity
  constructor
  · rw [add_sub_right_comm, zpow_add₀ (by norm_num)]
    exact mul_le_mul_of_nonneg_right fits.reached size.le
  · rw [zpow_add₀ (by norm_num)]
    exact mul_lt_mul_of_pos_right fits.below size

end IsPointOf

theorem digitCount_eq_length {n : ℕ} (nonzero : n ≠ 0) : digitCount n = (digitChars n).length := by
  rw [digitCount, if_neg nonzero, digitChars]

theorem digitCount_le_iff {n count : ℕ} (positive : 0 < count) :
    digitCount n ≤ count ↔ n < 10 ^ count := by
  by_cases zero : n = 0
  · subst zero
    exact iff_of_true (Nat.zero_le _) (Nat.pow_pos (by decide))
  · rw [digitCount, if_neg zero]
    exact Nat.length_toDigits_le_iff (by decide) positive

theorem digitCount_pos {n : ℕ} (nonzero : n ≠ 0) : 0 < digitCount n := by
  rw [digitCount_eq_length nonzero]
  exact List.length_pos_iff.mpr Nat.toDigits_ne_nil

/-- A number with as many digits as it has lies below that power of ten, and not below the last. -/
theorem digitCount_bounds {n : ℕ} (nonzero : n ≠ 0) :
    10 ^ (digitCount n - 1) ≤ n ∧ n < 10 ^ digitCount n := by
  have some := digitCount_pos nonzero
  constructor
  · by_contra below
    rcases Nat.eq_zero_or_pos (digitCount n - 1) with none | more
    · rw [none] at below
      omega
    · have fewer := (digitCount_le_iff more).mpr (Nat.lt_of_not_le below)
      omega
  · exact (digitCount_le_iff some).mp le_rfl

theorem isPointOf_digitCount {n : ℕ} (nonzero : n ≠ 0) : IsPointOf n (digitCount n) := by
  obtain ⟨reached, below⟩ := digitCount_bounds nonzero
  have some := digitCount_pos nonzero
  constructor
  · rw [← Nat.cast_one, ← Nat.cast_sub some, zpow_natCast]
    exact_mod_cast reached
  · rw [zpow_natCast]
    exact_mod_cast below

/-- The decimal point of a quotient is found by one division. -/
theorem isPointOf_decimalPoint {num den : ℕ} (nonzero : num ≠ 0) (positive : 0 < den) :
    IsPointOf (num / den) (decimalPoint num den) := by
  have size : (0 : ℚ) < den := Nat.cast_pos.mpr positive
  rw [decimalPoint]
  split
  · rename_i whole
    have some : num / den ≠ 0 := Nat.div_ne_zero_iff.mpr ⟨positive.ne', whole⟩
    have fits := isPointOf_digitCount some
    constructor
    · exact fits.reached.trans Nat.cast_div_le
    · obtain ⟨_, below⟩ := digitCount_bounds some
      rw [div_lt_iff₀ size, zpow_natCast]
      exact_mod_cast (Nat.div_lt_iff_lt_mul positive).mp below
  · rename_i fraction
    have some : (den - 1) / num ≠ 0 :=
      Nat.div_ne_zero_iff.mpr ⟨nonzero, by omega⟩
    obtain ⟨reached, below⟩ := digitCount_bounds some
    have more := digitCount_pos some
    generalize digitCount ((den - 1) / num) = count at reached below more ⊢
    have numerator := Nat.pos_of_ne_zero nonzero
    rw [Nat.le_div_iff_mul_le numerator] at reached
    rw [Nat.div_lt_iff_lt_mul numerator] at below
    constructor
    · rw [le_div_iff₀ size, show (1 : ℤ) - count - 1 = -count by ring, zpow_neg, zpow_natCast,
        inv_mul_le_iff₀ (by positivity)]
      have least : den ≤ 10 ^ count * num := by omega
      exact_mod_cast least
    · obtain ⟨rest, rfl⟩ := Nat.exists_eq_add_of_le' more
      rw [div_lt_iff₀ size, show (1 : ℤ) - (rest + 1 : ℕ) = -rest by push_cast; ring, zpow_neg,
        zpow_natCast, lt_inv_mul_iff₀ (by positivity)]
      have greatest : 10 ^ rest * num < den := by
        rw [Nat.add_sub_cancel] at reached
        omega
      exact_mod_cast greatest

theorem scaleByTen_snd_pos (num : ℕ) {den : ℕ} (positive : 0 < den) (power : ℤ) :
    0 < (scaleByTen num den power).2 :=
  scaled_snd_pos (by decide) num positive power

theorem scaleByTen_ratio (num den : ℕ) (power : ℤ) :
    ((scaleByTen num den power).1 : ℚ) / (scaleByTen num den power).2 =
      num / den * 10 ^ power := by
  have scaled := scaled_ratio 10 num den power
  rw [Nat.cast_ofNat] at scaled
  exact scaled

namespace Binary64

variable {negative : Bool} {significand num den : ℕ} {exponent : ℤ}

/-! ## Reading decimals -/

/-- A decimal that is neither too small nor too great is rounded as a quotient. -/
theorem ofDecimal_eq_ofRatio {digits : ℕ} (nonzero : digits ≠ 0)
    (least : -330 ≤ (digitCount digits : ℤ) + exponent)
    (greatest : (digitCount digits : ℤ) + exponent ≤ 310) :
    ofDecimal negative digits exponent =
      ofRatio negative (scaleByTen digits 1 exponent).1 (scaleByTen digits 1 exponent).2 := by
  rw [ofDecimal, if_neg (by omega), if_neg (by omega), scaleByTen]
  split
  · rfl
  · rw [Nat.one_mul]

/-- Which number a decimal is read as depends on its value only. -/
theorem ofDecimal_congr {digits other : ℕ} {power : ℤ}
    (same : (digits : ℚ) * 10 ^ exponent = other * 10 ^ power) :
    ofDecimal negative digits exponent = ofDecimal negative other power := by
  have size : ∀ power : ℤ, (10 : ℚ) ^ power ≠ 0 := fun power => by positivity
  by_cases none : digits = 0
  · have noneOther : other = 0 := by
      rw [none, Nat.cast_zero, zero_mul, eq_comm, mul_eq_zero, Nat.cast_eq_zero] at same
      exact same.resolve_right (size power)
    rw [ofDecimal, ofDecimal, if_pos (.inl none), if_pos (.inl noneOther)]
  · have some : other ≠ 0 := by
      rintro rfl
      rw [Nat.cast_zero, zero_mul, mul_eq_zero, Nat.cast_eq_zero] at same
      exact same.elim none (size exponent)
    have point : (digitCount digits : ℤ) + exponent = digitCount other + power := by
      refine ((isPointOf_digitCount none).mul_zpow exponent).unique ?_
      rw [same]
      exact (isPointOf_digitCount some).mul_zpow power
    by_cases least : -330 ≤ (digitCount digits : ℤ) + exponent
    · by_cases greatest : (digitCount digits : ℤ) + exponent ≤ 310
      · rw [ofDecimal_eq_ofRatio none least greatest,
          ofDecimal_eq_ofRatio some (point ▸ least) (point ▸ greatest)]
        apply ofRatio_congr (scaleByTen_snd_pos _ one_pos _) (scaleByTen_snd_pos _ one_pos _)
        rw [scaleByTen_ratio, scaleByTen_ratio, Nat.cast_one, div_one, div_one, same]
      · unfold ofDecimal
        dsimp only
        rw [point] at greatest least ⊢
        rw [if_neg (by omega), if_pos (by omega), if_neg (by omega), if_pos (by omega)]
    · unfold ofDecimal
      dsimp only
      rw [point] at least ⊢
      rw [if_pos (by omega), if_pos (by omega)]

theorem ten_zpow_le_least : (10 : ℚ) ^ (-330 : ℤ) ≤ 2 ^ minExponent := by
  obtain ⟨bits, places, bits_eq, places_eq, whole⟩ : ∃ bits places : ℕ,
      minExponent = -bits ∧ (-330 : ℤ) = -places ∧ 2 ^ bits ≤ 10 ^ places :=
    ⟨1074, 330, rfl, rfl, by decide +kernel⟩
  rw [bits_eq, places_eq, zpow_neg, zpow_neg, zpow_natCast, zpow_natCast]
  apply inv_anti₀ (by positivity)
  exact_mod_cast whole

theorem beyond_lt_ten_zpow : 2 * (hiddenBit : ℚ) * 2 ^ maxExponent < 10 ^ (310 : ℤ) := by
  obtain ⟨bits, places, bits_eq, places_eq, whole⟩ : ∃ bits places : ℕ,
      53 + maxExponent = bits ∧ (310 : ℤ) = places ∧ 2 ^ bits < 10 ^ places :=
    ⟨1024, 310, rfl, rfl, by decide +kernel⟩
  rw [twice_hiddenBit_mul_zpow, bits_eq, places_eq, zpow_natCast, zpow_natCast]
  exact_mod_cast whole

/-- Numbers of double precision lie between the powers of ten that reading is bounded by. -/
theorem IsCanonical.point_bounds
    (canonical : (Binary64.finite negative significand exponent).IsCanonical)
    (nonzero : significand ≠ 0) {point : ℤ}
    (fits : IsPointOf (significand * 2 ^ exponent) point) : -330 ≤ point ∧ point ≤ 310 := by
  cases canonical with
  | finite short least greatest _ =>
      have size : (0 : ℚ) < 2 ^ exponent := by positivity
      have one : (1 : ℚ) ≤ significand := by
        exact_mod_cast Nat.one_le_iff_ne_zero.mpr nonzero
      have long : (significand : ℚ) ≤ 2 * hiddenBit := by exact_mod_cast short.le
      have above : (10 : ℚ) ^ (-330 : ℤ) < 10 ^ point :=
        calc (10 : ℚ) ^ (-330 : ℤ) ≤ 2 ^ minExponent := ten_zpow_le_least
          _ ≤ 2 ^ exponent := zpow_le_zpow_right₀ one_le_two least
          _ ≤ significand * 2 ^ exponent := le_mul_of_one_le_left size.le one
          _ < 10 ^ point := fits.below
      have below : (10 : ℚ) ^ (point - 1) < 10 ^ (310 : ℤ) :=
        calc (10 : ℚ) ^ (point - 1) ≤ significand * 2 ^ exponent := fits.reached
          _ ≤ 2 * hiddenBit * 2 ^ maxExponent :=
              mul_le_mul long (zpow_le_zpow_right₀ one_le_two greatest) size.le (by positivity)
          _ < 10 ^ (310 : ℤ) := beyond_lt_ten_zpow
      rw [zpow_lt_zpow_iff_right₀ (by norm_num)] at above below
      omega

/-- A decimal whose value is that of a number is read as that number. -/
theorem IsCanonical.ofDecimal_eq
    (canonical : (Binary64.finite negative significand exponent).IsCanonical)
    (nonzero : significand ≠ 0) {digits : ℕ} {power : ℤ}
    (same : (digits : ℚ) * 10 ^ power = significand * 2 ^ exponent) :
    ofDecimal negative digits power = .finite negative significand exponent := by
  have some : digits ≠ 0 := by
    rintro rfl
    rw [Nat.cast_zero, zero_mul, eq_comm, mul_eq_zero, Nat.cast_eq_zero] at same
    exact same.elim nonzero (by positivity)
  have fits := (isPointOf_digitCount some).mul_zpow power
  rw [same] at fits
  obtain ⟨least, greatest⟩ := canonical.point_bounds nonzero fits
  rw [ofDecimal_eq_ofRatio some least greatest]
  apply canonical.ofRatio_eq (scaleByTen_snd_pos _ one_pos _)
  rw [scaleByTen_ratio, Nat.cast_one, div_one, same]

/-! ## The search -/

theorem roundQuotient_cases (num den : ℕ) :
    roundQuotient num den = num / den ∨ roundQuotient num den = num / den + 1 := by
  unfold roundQuotient
  dsimp only
  split
  · exact .inl rfl
  · split
    · exact .inr rfl
    · rcases Nat.mod_two_eq_zero_or_one (num / den) with even | odd
      · rw [even]
        exact .inl rfl
      · rw [odd]
        exact .inr rfl

/-- What is found on a grid is a neighbour of the quotient and reads back. -/
theorem onGrid_eq_some {target : Binary64} {point : ℤ} {count digits : ℕ}
    (found : onGrid target num den point count = some digits) :
    ofDecimal false digits (point - count) = target ∧
      ∃ scaled, scaled = scaleByTen num den (count - point) ∧
        (digits = scaled.1 / scaled.2 ∨ digits = scaled.1 / scaled.2 + 1) := by
  unfold onGrid at found
  generalize scaleByTen num den (count - point) = scaled at found ⊢
  obtain ⟨scaledNum, scaledDen⟩ := scaled
  dsimp only at found
  have nearest := roundQuotient_cases scaledNum scaledDen
  split at found
  · rename_i below above
    obtain rfl := Option.some.inj found
    refine ⟨?_, _, rfl, nearest⟩
    rcases nearest with same | next
    · rw [same]
      exact beq_iff_eq.mp below
    · rw [next]
      exact beq_iff_eq.mp above
  · rename_i below _
    obtain rfl := Option.some.inj found
    exact ⟨beq_iff_eq.mp below, _, rfl, .inl rfl⟩
  · rename_i _ above
    obtain rfl := Option.some.inj found
    exact ⟨beq_iff_eq.mp above, _, rfl, .inr rfl⟩
  · contradiction

end Binary64

namespace ShortDecimal

/-- The value of a decimal. -/
def value (decimal : ShortDecimal) : ℚ :=
  decimal.digits * 10 ^ (decimal.point - (digitChars decimal.digits).length)

/-- Decimals that are read as a number, without its sign. -/
def ReadsAs (decimal : ShortDecimal) (x : Binary64) : Prop :=
  Binary64.ofDecimal false decimal.digits
    (decimal.point - (digitChars decimal.digits).length) = x

end ShortDecimal

theorem IsPointOf.length_digitChars {n count : ℕ} (fits : IsPointOf n count) :
    (digitChars n).length = count := by
  have nonzero : n ≠ 0 := by
    rintro rfl
    exact absurd fits.pos (by norm_num)
  rw [← digitCount_eq_length nonzero]
  exact_mod_cast (isPointOf_digitCount nonzero).unique fits

/-- The neighbours of a quotient below a power of ten have as many digits, or are that power. -/
theorem IsPointOf.neighbour {num den count digits : ℕ} (positive : 0 < den) (some : 0 < count)
    (fits : IsPointOf (num / den) count)
    (next : digits = num / den ∨ digits = num / den + 1) :
    digits = 10 ^ count ∨ IsPointOf digits count := by
  have size : (0 : ℚ) < den := Nat.cast_pos.mpr positive
  obtain ⟨rest, rfl⟩ := Nat.exists_eq_add_of_le' some
  obtain ⟨reached, below⟩ := fits
  rw [zpow_natCast, div_lt_iff₀ size] at below
  rw [Nat.cast_succ, add_sub_cancel_right, zpow_natCast, le_div_iff₀ size] at reached
  have least : 10 ^ rest ≤ num / den := by
    rw [Nat.le_div_iff_mul_le positive]
    exact_mod_cast reached
  have bound : num / den < 10 ^ (rest + 1) := by
    rw [Nat.div_lt_iff_lt_mul positive]
    exact_mod_cast below
  by_cases last : digits = 10 ^ (rest + 1)
  · exact .inl last
  · refine .inr ⟨?_, ?_⟩
    · rw [Nat.cast_succ, add_sub_cancel_right, zpow_natCast]
      exact_mod_cast (by omega : 10 ^ rest ≤ digits)
    · rw [zpow_natCast]
      exact_mod_cast (by omega : digits < 10 ^ (rest + 1))

theorem isPointOf_pow (count : ℕ) : IsPointOf (10 ^ count : ℕ) (count + 1 : ℕ) := by
  constructor
  · rw [Nat.cast_succ, add_sub_cancel_right, zpow_natCast, Nat.cast_pow, Nat.cast_ofNat]
  · rw [zpow_natCast, Nat.cast_pow, Nat.cast_ofNat]
    exact pow_lt_pow_right₀ (by norm_num) (Nat.lt_succ_self count)

namespace Binary64

variable {num den : ℕ}

/-- The first decimal that is found on the grids reads back. -/
theorem readsAs_of_shortestFrom {target : Binary64} {point : ℤ} (positive : 0 < den)
    (fits : IsPointOf (num / den) point) {fuel count : ℕ} (some : 0 < count)
    {decimal : ShortDecimal}
    (found : shortestFrom target num den point fuel count = .some decimal) :
    decimal.ReadsAs target := by
  induction fuel generalizing count with
  | zero => contradiction
  | succ fuel inductionHypothesis =>
      unfold shortestFrom at found
      split at found
      · rename_i digits onGrid
        obtain ⟨reads, scaled, own, next⟩ := onGrid_eq_some onGrid
        obtain rfl := Option.some.inj found
        have scaledFits : IsPointOf ((scaled.1 : ℚ) / scaled.2) count := by
          have shifted := fits.mul_zpow (count - point)
          rw [add_sub_cancel] at shifted
          rw [own, scaleByTen_ratio]
          exact shifted
        have scaledPositive : 0 < scaled.2 := by
          rw [own]
          exact scaleByTen_snd_pos num positive _
        rw [ShortDecimal.ReadsAs]
        dsimp only
        -- A carry to the next power of ten moves the point along with the number of digits.
        by_cases carried : digits = 10 ^ count
        · have longer : (digitChars digits).length = count + 1 := by
            rw [carried]
            exact (isPointOf_pow count).length_digitChars
          rw [if_pos carried, longer]
          push_cast
          rw [add_sub_add_right_eq_sub]
          exact reads
        · have length := ((scaledFits.neighbour scaledPositive some next).resolve_left
            carried).length_digitChars
          rw [if_neg carried, length, add_zero]
          exact reads
      · exact inductionHypothesis (Nat.succ_pos count) found

variable {significand : ℕ} {exponent : ℤ}

theorem value_exactDecimal (nonzero : significand ≠ 0) :
    (exactDecimal significand exponent).value = significand * 2 ^ exponent := by
  rw [ShortDecimal.value, exactDecimal]
  dsimp only
  split
  · rename_i nonneg
    obtain ⟨n, rfl⟩ := Int.eq_ofNat_of_zero_le nonneg
    have some : significand * 2 ^ n ≠ 0 := Nat.mul_ne_zero nonzero (Nat.two_pow_pos n).ne'
    rw [Int.toNat_natCast, digitCount_eq_length some, min_eq_right nonneg, add_zero, sub_self,
      zpow_zero, mul_one, zpow_natCast]
    push_cast
    rfl
  · rename_i negative
    obtain ⟨n, rfl⟩ : ∃ n : ℕ, exponent = -n := ⟨(-exponent).toNat, by omega⟩
    have some : significand * 5 ^ n ≠ 0 :=
      Nat.mul_ne_zero nonzero (Nat.pow_pos (by decide)).ne'
    rw [neg_neg, Int.toNat_natCast, digitCount_eq_length some, min_eq_left (by omega),
      add_sub_cancel_left, zpow_neg, zpow_neg, zpow_natCast, zpow_natCast]
    push_cast
    rw [mul_assoc, show (10 : ℚ) = 5 * 2 by norm_num, mul_pow, mul_inv, mul_inv_cancel_left₀]
    positivity

/-- The decimal that a positive number is displayed by reads back. -/
theorem IsCanonical.readsAs_shortest
    (canonical : (Binary64.finite false significand exponent).IsCanonical)
    (nonzero : significand ≠ 0) :
    (shortest significand exponent).ReadsAs (.finite false significand exponent) := by
  have positive := magnitude_snd_pos significand exponent
  have ratio := magnitude_ratio significand exponent
  rw [shortest]
  generalize magnitude significand exponent = quotient at positive ratio ⊢
  obtain ⟨num, den⟩ := quotient
  dsimp only at positive ratio ⊢
  have numerator : num ≠ 0 := by
    rintro rfl
    rw [Nat.cast_zero, zero_div, eq_comm, mul_eq_zero, Nat.cast_eq_zero] at ratio
    exact ratio.elim nonzero (by positivity)
  cases found : shortestFrom (.finite false significand exponent) num den
      (decimalPoint num den) maxShortestDigits 1 with
  | some decimal =>
      exact readsAs_of_shortestFrom positive (isPointOf_decimalPoint numerator positive) one_pos
        found
  | none => exact canonical.ofDecimal_eq nonzero (value_exactDecimal nonzero)

end Binary64

end RideQuery.Number
