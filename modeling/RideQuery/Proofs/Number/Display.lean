import RideQuery.Proofs.Number.DecimalNumeral

/-!
# Displayed numbers

A finite number of double precision is displayed as a decimal numeral, in one of two layouts,
and the numeral is read back as the number.
-/

namespace RideQuery.Number

open RideQuery.Text

/-! ## Displayed decimals -/

/-- Texts of the numerals that have some value, but for their signs. -/
def Spells (text : List Char) (magnitude : ℚ) : Prop :=
  ∀ negative, ∃ numeral : DecimalNumeral, numeral.negative = negative ∧
    numeral.unsigned = text ∧ numeral.magnitude = magnitude

section Layout

variable {digits : List Char}

/-- Digits with a point in front of them, behind some zeros. -/
theorem spells_fraction (nonempty : digits ≠ []) (ascii : ∀ c ∈ digits, c.isDigit = true)
    (zeros : ℕ) :
    Spells ('0' :: '.' :: (List.replicate zeros '0' ++ digits))
      (asciiValue digits * 10 ^ (-zeros - digits.length : ℤ)) := by
  intro negative
  refine ⟨{ negative, whole := ['0'], places := List.replicate zeros '0' ++ digits,
            exponent := none, whole_ne_nil := by simp, isDigit_whole := by decide,
            isDigit_places := ?_ }, rfl, ?_, ?_⟩
  · rw [List.forall_mem_append]
    refine ⟨fun c member => ?_, ascii⟩
    rw [List.eq_of_mem_replicate member]
    decide
  · rw [DecimalNumeral.unsigned, DecimalNumeral.fraction,
      if_neg (List.append_ne_nil_of_right_ne_nil _ nonempty), DecimalNumeral.exponentPart,
      List.append_nil]
    rfl
  · rw [DecimalNumeral.magnitude, DecimalNumeral.digits, DecimalNumeral.power]
    dsimp only
    rw [List.singleton_append, asciiValue_zero_cons, asciiValue_append, asciiValue_replicate_zero,
      Nat.mul_zero, Nat.zero_add, List.length_append, List.length_replicate, Option.getD_none]
    congr 2
    push_cast
    ring

/-- Digits with some zeros behind them, then a point and one more zero. -/
theorem spells_whole (nonempty : digits ≠ []) (ascii : ∀ c ∈ digits, c.isDigit = true)
    (zeros : ℕ) :
    Spells (digits ++ List.replicate zeros '0' ++ ['.', '0'])
      (asciiValue digits * 10 ^ (zeros : ℤ)) := by
  intro negative
  refine ⟨{ negative, whole := digits ++ List.replicate zeros '0', places := ['0'],
            exponent := none, whole_ne_nil := List.append_ne_nil_of_left_ne_nil nonempty _,
            isDigit_whole := ?_, isDigit_places := by decide }, rfl, ?_, ?_⟩
  · rw [List.forall_mem_append]
    refine ⟨ascii, fun c member => ?_⟩
    rw [List.eq_of_mem_replicate member]
    decide
  · rfl
  · rw [DecimalNumeral.magnitude, DecimalNumeral.digits, DecimalNumeral.power]
    dsimp only
    rw [List.append_assoc, ← List.replicate_succ', asciiValue_append, asciiValue_replicate_zero,
      Nat.add_zero, List.length_replicate, Option.getD_none, List.length_singleton, pow_succ]
    rw [zpow_natCast, Nat.cast_one, zero_sub, zpow_neg_one]
    push_cast
    ring

/-- Digits with a point between them. -/
theorem spells_split {whole places : List Char} (wholeNonempty : whole ≠ [])
    (placesNonempty : places ≠ []) (ascii : ∀ c ∈ whole ++ places, c.isDigit = true) :
    Spells (whole ++ '.' :: places)
      (asciiValue (whole ++ places) * 10 ^ (-places.length : ℤ)) := by
  intro negative
  rw [List.forall_mem_append] at ascii
  refine ⟨{ negative, whole, places, exponent := none, whole_ne_nil := wholeNonempty,
            isDigit_whole := ascii.1, isDigit_places := ascii.2 }, rfl, ?_, ?_⟩
  · rw [DecimalNumeral.unsigned, DecimalNumeral.fraction, if_neg placesNonempty,
      DecimalNumeral.exponentPart, List.append_nil]
  · rw [DecimalNumeral.magnitude, DecimalNumeral.digits, DecimalNumeral.power]
    dsimp only
    rw [Option.getD_none, zero_sub]

theorem spells_positional (nonempty : digits ≠ []) (ascii : ∀ c ∈ digits, c.isDigit = true)
    (point : ℤ) :
    Spells (positional digits point) (asciiValue digits * 10 ^ (point - digits.length)) := by
  unfold positional
  split
  · have own : point - digits.length = -((-point).toNat : ℤ) - digits.length := by omega
    rw [own]
    exact spells_fraction nonempty ascii _
  · dsimp only
    split
    · have own : point - digits.length = ((point.toNat - digits.length : ℕ) : ℤ) := by omega
      rw [own]
      exact spells_whole nonempty ascii _
    · have own : point - digits.length = -((digits.drop point.toNat).length : ℤ) := by
        rw [List.length_drop]
        omega
      have front : digits.take point.toNat ≠ [] := by
        rw [ne_eq, List.take_eq_nil_iff, not_or]
        exact ⟨by omega, nonempty⟩
      have behind : digits.drop point.toNat ≠ [] := by
        rw [ne_eq, List.drop_eq_nil_iff]
        omega
      have split := spells_split front behind (by rwa [List.take_append_drop])
      rwa [List.take_append_drop, ← own] at split

theorem spells_scientific (nonempty : digits ≠ []) (ascii : ∀ c ∈ digits, c.isDigit = true)
    (exponent : ℤ) :
    Spells (pointAfterFirst digits ++ 'e' :: exponentChars exponent)
      (asciiValue digits * 10 ^ (exponent + 1 - digits.length)) := by
  obtain ⟨first, places, rfl⟩ := List.exists_cons_of_ne_nil nonempty
  rw [List.forall_mem_cons] at ascii
  intro negative
  refine ⟨{ negative, whole := [first], places, exponent := some exponent,
            whole_ne_nil := List.cons_ne_nil _ _, isDigit_whole := ?_,
            isDigit_places := ascii.2 }, rfl, ?_, ?_⟩
  · simpa using ascii.1
  · cases places with
    | nil => rfl
    | cons second places => rfl
  · rw [DecimalNumeral.magnitude, DecimalNumeral.digits, DecimalNumeral.power]
    dsimp only
    rw [List.singleton_append, Option.getD_some, List.length_cons]
    congr 2
    push_cast
    ring

end Layout

theorem exists_eq_dropTrailingZeros_append {digits : List Char} (nonempty : digits ≠ []) :
    dropTrailingZeros digits ≠ [] ∧
      ∃ zeros, digits = dropTrailingZeros digits ++ List.replicate zeros '0' := by
  obtain ⟨dropped, own, zeros⟩ := exists_dropRightWhile_append (· == '0') digits
  have replicated : dropped = List.replicate dropped.length '0' :=
    List.eq_replicate_iff.mpr ⟨rfl, fun c member => beq_iff_eq.mp (zeros c member)⟩
  unfold dropTrailingZeros
  dsimp only
  split
  · rename_i none
    rw [List.isEmpty_iff.mp none, List.nil_append] at own
    obtain ⟨count, length⟩ := Nat.exists_eq_succ_of_ne_zero
      (own ▸ mt List.length_eq_zero_iff.mp nonempty : dropped.length ≠ 0)
    refine ⟨List.cons_ne_nil _ _, count, ?_⟩
    rw [own, replicated, length]
    rfl
  · rename_i some
    refine ⟨by simpa using some, dropped.length, ?_⟩
    rw [← replicated]
    exact own

/-- A decimal is displayed by a numeral of its value. -/
theorem spells_displayDecimal (decimal : ShortDecimal) :
    Spells (displayDecimal decimal) decimal.value := by
  have some : digitChars decimal.digits ≠ [] := Nat.toDigits_ne_nil
  obtain ⟨nonempty, zeros, own⟩ := exists_eq_dropTrailingZeros_append some
  have ascii : ∀ c ∈ dropTrailingZeros (digitChars decimal.digits), c.isDigit = true := by
    intro c member
    apply isDigit_of_mem_digitChars (n := decimal.digits)
    rw [own]
    exact List.mem_append_left _ member
  have value : decimal.value = asciiValue (dropTrailingZeros (digitChars decimal.digits)) *
      10 ^ (decimal.point - (dropTrailingZeros (digitChars decimal.digits)).length) := by
    have digits := asciiValue_digitChars decimal.digits
    rw [own, asciiValue_append, asciiValue_replicate_zero, List.length_replicate] at digits
    have length := congrArg List.length own
    rw [List.length_append, List.length_replicate] at length
    rw [ShortDecimal.value, length]
    generalize dropTrailingZeros (digitChars decimal.digits) = kept at digits
    rw [← digits]
    push_cast
    rw [← sub_sub, zpow_sub₀ (by norm_num) _ (zeros : ℤ), zpow_natCast, mul_div_assoc',
      div_eq_iff (by positivity)]
    ring
  rw [value]
  unfold displayDecimal
  dsimp only
  split
  · exact spells_positional nonempty ascii _
  · have scientific := spells_scientific nonempty ascii (decimal.point - 1)
    rwa [sub_add_cancel] at scientific

/-! ## Finite numbers -/

theorem Spells.exists_text {text : List Char} {magnitude : ℚ} (spells : Spells text magnitude)
    (negative : Bool) :
    ∃ numeral : DecimalNumeral, numeral.text = withSign negative text ∧
      ∀ (digits : ℕ) (power : ℤ), (digits : ℚ) * 10 ^ power = magnitude →
        Binary64.read? numeral.text = some (Binary64.ofDecimal negative digits power) := by
  obtain ⟨numeral, sign, written, own⟩ := spells negative
  refine ⟨numeral, ?_, ?_⟩
  · rw [DecimalNumeral.text, sign, written]
  · intro digits power same
    rw [numeral.read?_text, sign, Binary64.ofDecimal_congr (own.trans same.symm)]

/--
A finite number of double precision is written as a numeral, and the numeral is read back as
the number.
-/
theorem exists_numeral_textWith (names : SpecialNames) (negative : Bool) (significand : ℕ)
    (exponent : ℤ) :
    ∃ numeral : DecimalNumeral,
      numeral.text = (Binary64.finite negative significand exponent).textWith names ∧
      ((Binary64.finite negative significand exponent).IsCanonical →
        Binary64.read? numeral.text = some (.finite negative significand exponent)) := by
  have written : (Binary64.finite negative significand exponent).textWith names =
      withSign negative (if significand = 0 then ['0', '.', '0']
        else displayDecimal (Binary64.shortest significand exponent)) := rfl
  rw [written]
  by_cases none : significand = 0
  · subst none
    have spells : Spells ['0', '.', '0'] _ := spells_whole (List.cons_ne_nil '0' []) (by decide) 0
    obtain ⟨numeral, own, reads⟩ := spells.exists_text negative
    refine ⟨numeral, own, fun canonical => ?_⟩
    rw [reads 0 0 rfl, canonical.eq_zero]
    rfl
  · rw [if_neg none]
    obtain ⟨numeral, own, reads⟩ :=
      (spells_displayDecimal (Binary64.shortest significand exponent)).exists_text negative
    refine ⟨numeral, own, fun canonical => ?_⟩
    have unsigned : (Binary64.finite false significand exponent).IsCanonical := by
      cases canonical with
      | finite short least greatest normal => exact .finite short least greatest normal
    rw [reads _ _ rfl]
    exact congrArg some
      (Binary64.ofDecimal_of_unsigned (unsigned.readsAs_shortest none) negative)

theorem isCanonical_of_readUnsigned {negative : Bool} {text : List Char} {x : Binary64}
    (reads : readUnsigned negative text = some x) : x.IsCanonical := by
  unfold readUnsigned at reads
  dsimp only at reads
  split_ifs at reads
  obtain ⟨exponent, _, rfl⟩ := Option.map_eq_some_iff.mp reads
  exact Binary64.isCanonical_ofDecimal ..

/-- The numbers in canonical form are those that some text is read as. -/
theorem isCanonical_iff_exists_read? {x : Binary64} :
    x.IsCanonical ↔ ∃ text, Binary64.read? text = some x := by
  constructor
  · intro canonical
    cases x with
    | nan => exact ⟨"nan".toList, rfl⟩
    | infinity negative => exact ⟨withSign negative "inf".toList, by cases negative <;> rfl⟩
    | finite negative significand exponent =>
        obtain ⟨numeral, _, reads⟩ :=
          exists_numeral_textWith plainNames negative significand exponent
        exact ⟨numeral.text, reads canonical⟩
  · rintro ⟨text, reads⟩
    obtain ⟨plain, _, reads⟩ := Option.bind_eq_some_iff.mp reads
    dsimp only at reads
    split at reads
    · obtain rfl := Option.some.inj reads
      exact .infinity _
    · split at reads
      · obtain rfl := Option.some.inj reads
        exact .nan
      · exact isCanonical_of_readUnsigned reads

end RideQuery.Number
