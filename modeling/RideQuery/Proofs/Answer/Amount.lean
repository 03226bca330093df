import RideQuery.Answer.Shape
import RideQuery.Proofs.Number.Closest
import RideQuery.Proofs.Number.DecimalReading
import RideQuery.Proofs.Value.Display

/-!
# Amounts

The aggregate that a database returns is null or a number, and numbers come as integers, numbers
of double precision, exact decimals, or texts.  Each of them stands for a rational number, which
the shapes of answers take as the closest number of double precision.
-/

namespace RideQuery.Answer

open RideQuery.Number

/-- The rational numbers that values stand for. -/
inductive Denotes : Value → ℚ → Prop
  | bool (b : Bool) : Denotes (.bool b) (if b then 1 else 0)
  | int (n : ℤ) : Denotes (.int n) n
  | float {x : Binary64} (representable : x.IsRepresentable) : Denotes (.float x) x.value
  | decimal (negative : Bool) (digits : ℕ) (power : ℤ) :
      Denotes (.decimal (.finite negative digits power))
        (Binary64.signed negative digits * 10 ^ power)
  | text {text : String} {negative : Bool} {digits : ℕ} {power : ℤ}
      (isDecimal : IsDecimal text.toList negative digits power) :
      Denotes (.text text) (Binary64.signed negative digits * 10 ^ power)

/-- Values that are null, or that stand for a number in the range of double precision. -/
inductive IsAmount : Value → Option ℚ → Prop
  | null : IsAmount .null none
  | number {value : Value} {q : ℚ} (denotes : Denotes value q) (inRange : |q| < Binary64.overflow) :
      IsAmount value (some q)

variable {value : Value} {q : ℚ}

/-- A value is taken as the closest number to the one that it stands for. -/
theorem Denotes.exists_toNumber (denotes : Denotes value q) (inRange : |q| < Binary64.overflow) :
    ∃ x, toNumber value = .ok x ∧ Binary64.IsClosest q x := by
  cases denotes with
  | bool b =>
      have finite : ∀ n ≤ 1, Binary64.ofRatio false n 1 ≠ .infinity false := by decide
      have closest : ∀ n : ℕ, n ≤ 1 → Binary64.IsClosest n (Binary64.ofRatio false n 1) := by
        intro n bound
        have own := Binary64.isClosest_ofRatio one_pos (finite n bound)
        rwa [Nat.cast_one, div_one] at own
      cases b with
      | false => exact ⟨_, rfl, Nat.cast_zero (R := ℚ) ▸ closest 0 (by decide)⟩
      | true => exact ⟨_, rfl, Nat.cast_one (R := ℚ) ▸ closest 1 le_rfl⟩
  | int n => exact Binary64.exists_ofInt inRange
  | float representable => exact ⟨_, rfl, representable.isClosest⟩
  | decimal negative digits power =>
      rw [Binary64.abs_signed_mul_zpow] at inRange
      exact ⟨_, rfl, Binary64.isClosest_ofDecimal inRange⟩
  | @text text negative digits power isDecimal =>
      rw [Binary64.abs_signed_mul_zpow] at inRange
      refine ⟨_, ?_, Binary64.isClosest_ofDecimal inRange⟩
      rw [toNumber, Binary64.read, isDecimal.read?_eq]

theorem Denotes.ne_null (denotes : Denotes value q) : value ≠ .null := by
  rintro rfl
  cases denotes

/-- An amount is a number if it is not null. -/
theorem Denotes.exists_number? (denotes : Denotes value q) (inRange : |q| < Binary64.overflow) :
    ∃ x, number? value = .ok (some x) ∧ Binary64.IsClosest q x := by
  obtain ⟨x, read, closest⟩ := denotes.exists_toNumber inRange
  refine ⟨x, ?_, closest⟩
  rw [number?, read]
  · rfl
  · exact denotes.ne_null

/-- An amount can be shown: no integer in the range is too long. -/
theorem IsAmount.exists_plain {q? : Option ℚ} (amount : IsAmount value q?) :
    ∃ text, value.plain = .ok text := by
  cases amount with
  | null => exact ⟨"None", rfl⟩
  | number denotes inRange =>
      cases denotes with
      | bool b => exact ⟨_, rfl⟩
      | int n =>
          change ∃ text, (Value.int n).inspect = .ok text
          rw [Value.inspect_int]
          have short : digitCount n.natAbs ≤ maxDigits := by
            apply Binary64.digitCount_le_maxDigits
            rw [Nat.cast_natAbs, Int.cast_abs]
            exact inRange
          exact ⟨integerText n, if_pos short⟩
      | float _ => exact ⟨_, rfl⟩
      | decimal negative digits power => exact ⟨_, rfl⟩
      | text _ => exact ⟨_, rfl⟩

end RideQuery.Answer
