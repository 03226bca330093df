import Mathlib.Data.List.Basic
import Mathlib.Data.List.TakeWhile
import Mathlib.Data.Nat.Digits.Defs
import RideQuery.Number.DecimalText
import RideQuery.Proofs.Text.Words

/-!
# Numerals of natural numbers

The decimal digits that a number is written with are ASCII digits, and reading them
gives the number back.  A short run of decimal digits of any script is an integer.
-/

namespace RideQuery.Number

open RideQuery.Text

/-! ## ASCII digits -/

theorem toNat_bounds_of_isDigit {c : Char} (digit : c.isDigit = true) :
    48 ≤ c.toNat ∧ c.toNat ≤ 57 := by
  simp only [Char.isDigit, Bool.and_eq_true, decide_eq_true_eq] at digit
  constructor
  · exact UInt32.le_iff_toNat_le.mp digit.1
  · exact UInt32.le_iff_toNat_le.mp digit.2

theorem digitValue?_of_isDigit {c : Char} (digit : c.isDigit = true) :
    digitValue? c = some (c.toNat - 48) := by
  have bounds := toNat_bounds_of_isDigit digit
  have ascii : c.toNat < 128 := by omega
  simp [digitValue?, ascii, digit]

theorem isDecimalDigit_of_isDigit {c : Char} (digit : c.isDigit = true) :
    isDecimalDigit c = true := by
  simp [isDecimalDigit, digitValue?_of_isDigit digit]

/-! ## Reading and writing -/

theorem isDigit_of_mem_repr {n : Nat} {c : Char} (member : c ∈ (Nat.repr n).toList) :
    c.isDigit = true := by
  rw [Nat.toList_repr] at member
  exact Nat.isDigit_of_mem_toDigits (by decide) (by decide) member

theorem toList_repr_ne_nil (n : Nat) : (Nat.repr n).toList ≠ [] := by
  rw [Nat.toList_repr]
  exact Nat.toDigits_ne_nil

theorem filterMap_digitValue? {digits : List Char} (ascii : ∀ c ∈ digits, c.isDigit = true) :
    digits.filterMap digitValue? = digits.map fun c => c.toNat - 48 := by
  induction digits with
  | nil => rfl
  | cons c digits inductionHypothesis =>
      obtain ⟨first, rest⟩ := List.forall_mem_cons.mp ascii
      rw [List.filterMap_cons_some (digitValue?_of_isDigit first), List.map_cons,
        inductionHypothesis rest]

theorem ofDigits_eq_ofDigitChars (digits : List Char) :
    ofDigits (digits.map fun c => c.toNat - 48) = Nat.ofDigitChars 10 digits 0 := by
  rw [ofDigits, List.foldl_map, Nat.ofDigitChars_eq_foldl]
  rfl

/-- The digits of a number stand for it. -/
theorem ofDigits_repr (n : Nat) :
    ofDigits ((Nat.repr n).toList.filterMap digitValue?) = n := by
  rw [filterMap_digitValue? fun c => isDigit_of_mem_repr, ofDigits_eq_ofDigitChars,
    Nat.toList_repr, Nat.ofDigitChars_ten_toDigits]

/-- Different numbers are written differently. -/
theorem repr_injective {m n : Nat} (same : Nat.repr m = Nat.repr n) : m = n := by
  rw [← ofDigits_repr m, same, ofDigits_repr]

/-- Different integers are written differently. -/
theorem integerText_injective {m n : Int} (same : integerText m = integerText n) : m = n := by
  have unsigned (number : Nat) (other : String) : Nat.repr number ≠ "-" ++ other := by
    intro equal
    have sign : '-' ∈ (Nat.repr number).toList := by simp [equal]
    exact absurd (isDigit_of_mem_repr sign) (by decide)
  unfold integerText at same
  split at same <;> split at same
  · have digits : Nat.repr m.natAbs = Nat.repr n.natAbs := by simpa using same
    have := repr_injective digits
    omega
  · exact absurd same.symm (unsigned _ _)
  · exact absurd same (unsigned _ _)
  · have := repr_injective same
    omega

/-! ## Values of ASCII digits -/

theorem asciiValue_eq_ofDigitChars (digits : List Char) :
    asciiValue digits = Nat.ofDigitChars 10 digits 0 :=
  ofDigits_eq_ofDigitChars digits

theorem asciiValue_cons (c : Char) (digits : List Char) :
    asciiValue (c :: digits) = 10 ^ digits.length * (c.toNat - 48) + asciiValue digits := by
  rw [asciiValue_eq_ofDigitChars, asciiValue_eq_ofDigitChars, Nat.ofDigitChars_cons,
    Nat.ofDigitChars_eq_ofDigitChars_zero, Nat.mul_zero, Nat.zero_add]
  rfl

theorem asciiValue_zero_cons (digits : List Char) :
    asciiValue ('0' :: digits) = asciiValue digits := by
  rw [asciiValue_cons]
  exact Nat.zero_add _

theorem asciiValue_append (digits others : List Char) :
    asciiValue (digits ++ others) =
      10 ^ others.length * asciiValue digits + asciiValue others := by
  rw [asciiValue_eq_ofDigitChars, asciiValue_eq_ofDigitChars, asciiValue_eq_ofDigitChars,
    Nat.ofDigitChars_append, Nat.ofDigitChars_eq_ofDigitChars_zero]

theorem asciiValue_replicate_zero (count : Nat) : asciiValue (List.replicate count '0') = 0 := by
  rw [asciiValue_eq_ofDigitChars, Nat.ofDigitChars_replicate_zero, Nat.mul_zero]

theorem asciiValue_digitChars (n : Nat) : asciiValue (digitChars n) = n := by
  rw [asciiValue_eq_ofDigitChars, digitChars, Nat.ofDigitChars_ten_toDigits]

theorem isDigit_of_mem_digitChars {n : Nat} {c : Char} (member : c ∈ digitChars n) :
    c.isDigit = true :=
  Nat.isDigit_of_mem_toDigits (by decide) (by decide) member

theorem asciiValue_lt {digits : List Char} (ascii : ∀ c ∈ digits, c.isDigit = true) :
    asciiValue digits < 10 ^ digits.length := by
  induction digits with
  | nil => decide
  | cons c digits inductionHypothesis =>
      obtain ⟨digit, rest⟩ := List.forall_mem_cons.mp ascii
      have bounds := toNat_bounds_of_isDigit digit
      have below := inductionHypothesis rest
      have first : 10 ^ digits.length * (c.toNat - 48) ≤ 10 ^ digits.length * 9 :=
        Nat.mul_le_mul_left _ (by omega)
      rw [asciiValue_cons, List.length_cons, Nat.pow_succ]
      omega

/-! ## Digits of every script -/

theorem isDigitLike_of_isDecimalDigit {c : Char} (digit : isDecimalDigit c = true) :
    isDigitLike c = true := by
  rw [isDigitLike, digit, Bool.true_or]

theorem isBlank_of_isDigitLike {c : Char} (digit : isDigitLike c = true) :
    isBlank c = false := by
  cases blank : isBlank c with
  | false => rfl
  | true =>
      have codes : ∀ code ∈ blankCodes, isDigitLike (Char.ofNat code) = false := by decide
      have none := codes c.toNat (mem_blankCodes blank)
      rw [Char.ofNat_toNat, digit] at none
      contradiction

theorem dropSign_of_isDigitLike {text : List Char} (digits : ∀ c ∈ text, isDigitLike c = true) :
    dropSign text = (false, text) := by
  unfold dropSign
  split
  · exact absurd (digits '+' List.mem_cons_self) (by decide)
  · exact absurd (digits '-' List.mem_cons_self) (by decide)
  · rfl

theorem looseUnderscore_eq_false {text : List Char} (none : '_' ∉ text) :
    looseUnderscore text = false := by
  fun_induction looseUnderscore text with
  | case1 => rfl
  | case2 => simp at none
  | case3 => simp at none
  | case4 c rest _ _ inductionHypothesis =>
      exact inductionHypothesis fun member => none (List.mem_cons_of_mem c member)

theorem length_filterMap_digitValue? {text : List Char}
    (digits : ∀ c ∈ text, isDecimalDigit c = true) :
    (text.filterMap digitValue?).length = text.length := by
  induction text with
  | nil => rfl
  | cons c text inductionHypothesis =>
      obtain ⟨first, rest⟩ := List.forall_mem_cons.mp digits
      obtain ⟨value, valued⟩ := Option.isSome_iff_exists.mp first
      rw [List.filterMap_cons_some valued, List.length_cons, List.length_cons,
        inductionHypothesis rest]

/-- A run of decimal digits is read as the number that it stands for. -/
theorem readDigits_of_isDecimalDigit {text : List Char} (nonempty : text ≠ [])
    (digits : ∀ c ∈ text, isDecimalDigit c = true) (short : text.length ≤ maxDigits) :
    readDigits text = .ok (some (ofDigits (text.filterMap digitValue?))) := by
  have span : digitSpan text = text :=
    List.takeWhile_eq_self_iff.mpr fun c member => by rw [digits c member, Bool.true_or]
  have noUnderscore : '_' ∉ text := fun member => absurd (digits '_' member) (by decide)
  have head : (text.head? == some '_') = false := by
    rw [beq_eq_false_iff_ne]
    exact fun first => noUnderscore (List.mem_of_head? first)
  have length := length_filterMap_digitValue? digits
  have some : (text.filterMap digitValue?).isEmpty = false := by
    rw [List.isEmpty_eq_false_iff, ← List.length_pos_iff, length]
    exact List.length_pos_iff.mpr nonempty
  simp only [readDigits, span, head, some, looseUnderscore_eq_false noUnderscore, length,
    Nat.not_lt.mpr short, Bool.or_self, Bool.false_eq_true, if_false, beq_self_eq_true, if_true]

/-- A text that looks like digits has neither blanks nor a sign to be taken off. -/
theorem readInteger_of_isDigitLike {text : List Char}
    (digits : ∀ c ∈ text, isDigitLike c = true) :
    readInteger text = (do
      match ← readDigits text with
      | some value => .ok (value : Int)
      | none => .error (.notAnInteger text)) := by
  have notBlank : ∀ c ∈ text, isNumeralBlank c = false := by
    intro c member
    rw [isNumeralBlank, isBlank_of_isDigitLike (digits c member), Bool.false_and]
  have stripped : stripWhile isNumeralBlank text = text :=
    stripWhile_eq_self (fun c first => notBlank c (List.mem_of_head? first))
      fun c last => notBlank c (List.mem_of_getLast? last)
  rw [readInteger, stripped, dropSign_of_isDigitLike digits]
  rfl

theorem readInteger_of_isDecimalDigit {text : List Char} (nonempty : text ≠ [])
    (digits : ∀ c ∈ text, isDecimalDigit c = true) (short : text.length ≤ maxDigits) :
    readInteger text = .ok (ofDigits (text.filterMap digitValue?) : Int) := by
  have digitLike : ∀ c ∈ text, isDigitLike c = true :=
    fun c member => isDigitLike_of_isDecimalDigit (digits c member)
  rw [readInteger_of_isDigitLike digitLike, readDigits_of_isDecimalDigit nonempty digits short]
  rfl

/-! ## Integers read back -/

theorem digitCount_le_of_lt {n : Nat} (below : n < 10 ^ maxDigits) : digitCount n ≤ maxDigits := by
  rw [digitCount]
  split
  · exact Nat.zero_le _
  · exact Nat.toDigits_length 10 _ _ (by decide) below

theorem length_repr_le {n : Nat} (short : digitCount n ≤ maxDigits) :
    (Nat.repr n).toList.length ≤ maxDigits := by
  rw [Nat.toList_repr]
  by_cases zero : n = 0
  · subst zero
    decide
  · rwa [digitCount, if_neg zero] at short

/-- Only nought is written with a nought in front. -/
theorem head?_repr_ne_zero {n : Nat} (nonzero : n ≠ 0) : (Nat.repr n).toList.head? ≠ some '0' := by
  rw [Nat.toList_repr]
  induction n using Nat.strongRecOn with
  | ind n inductionHypothesis =>
      by_cases small : n < 10
      · have all : ∀ n < 10, n ≠ 0 → (Nat.toDigits 10 n).head? ≠ some '0' := by decide
        exact all n small nonzero
      · rw [Nat.toDigits_of_base_le (by decide) (Nat.not_lt.mp small)]
        rw [List.head?_append_of_ne_nil _ Nat.toDigits_ne_nil]
        exact inductionHypothesis (n / 10) (by omega) (by omega)

theorem readDigits_repr {n : Nat} (short : digitCount n ≤ maxDigits) :
    readDigits (Nat.repr n).toList = .ok (some n) := by
  rw [readDigits_of_isDecimalDigit (toList_repr_ne_nil n)
    (fun c member => isDecimalDigit_of_isDigit (isDigit_of_mem_repr member))
    (length_repr_le short), ofDigits_repr]

/-- The text of an integer that is not too long is read as that integer. -/
theorem readInteger_integerText {n : Int} (short : digitCount n.natAbs ≤ maxDigits) :
    readInteger (integerText n).toList = .ok n := by
  have digits : ∀ c ∈ (Nat.repr n.natAbs).toList, isDigitLike c = true := fun c member =>
    isDigitLike_of_isDecimalDigit (isDecimalDigit_of_isDigit (isDigit_of_mem_repr member))
  unfold integerText
  split
  · rename_i negative
    have stripped : stripWhile isNumeralBlank ('-' :: (Nat.repr n.natAbs).toList) =
        '-' :: (Nat.repr n.natAbs).toList := by
      apply stripWhile_eq_self
      · intro c first
        obtain rfl : '-' = c := Option.some.inj first
        decide
      · intro c last
        rw [List.getLast?_cons_of_ne_nil (toList_repr_ne_nil _)] at last
        rw [isNumeralBlank, isBlank_of_isDigitLike (digits c (List.mem_of_getLast? last)),
          Bool.false_and]
    rw [String.toList_append]
    change (readInteger ('-' :: (Nat.repr n.natAbs).toList)) = _
    rw [readInteger, stripped]
    change ((do match ← readDigits (Nat.repr n.natAbs).toList with
      | some value => .ok (-(value : Int))
      | none => .error (.notAnInteger _)) : Except NumberError Int) = _
    rw [readDigits_repr short]
    change Except.ok (-((n.natAbs : Nat) : Int)) = _
    congr 1
    omega
  · rename_i natural
    rw [readInteger_of_isDigitLike digits, readDigits_repr short]
    change Except.ok ((n.natAbs : Nat) : Int) = _
    congr 1
    omega

/-! ## Digits that cannot be read -/

/-- Texts of decimal digits, not too many of them. -/
def IsReadable (text : List Char) : Prop :=
  (∀ c ∈ text, isDecimalDigit c = true) ∧ text.length ≤ maxDigits

instance (text : List Char) : Decidable (IsReadable text) :=
  inferInstanceAs (Decidable (_ ∧ _))

theorem isReadable_of_readDigits {text : List Char} {value : Nat} (none : '_' ∉ text)
    (read : readDigits text = .ok (some value)) : IsReadable text := by
  unfold readDigits at read
  dsimp only at read
  split at read
  · exact absurd (Except.ok.inj read) nofun
  · split at read
    · contradiction
    · rename_i few
      split at read
      · rename_i whole
        have span : digitSpan text = text :=
          (List.takeWhile_prefix _).eq_of_length (beq_iff_eq.mp whole)
        have digits : ∀ c ∈ text, isDecimalDigit c = true := by
          intro c member
          have kept := List.takeWhile_eq_self_iff.mp span c member
          have other : (c == '_') = false := by
            rw [beq_eq_false_iff_ne]
            rintro rfl
            exact none member
          rwa [other, Bool.or_false] at kept
        rw [span, length_filterMap_digitValue? digits] at few
        exact ⟨digits, Nat.not_lt.mp few⟩
      · exact absurd (Except.ok.inj read) nofun

/-- A text that looks like digits can be read exactly if it consists of few decimal ones. -/
theorem exists_readInteger_iff {text : List Char} (digitLike : allDigitLike text = true) :
    (∃ number, readInteger text = .ok number) ↔ IsReadable text := by
  rw [allDigitLike, Bool.and_eq_true, Bool.not_eq_true', List.isEmpty_eq_false_iff,
    List.all_eq_true] at digitLike
  obtain ⟨nonempty, digits⟩ := digitLike
  constructor
  · rintro ⟨number, read⟩
    have none : '_' ∉ text := fun member => absurd (digits '_' member) (by decide)
    rw [readInteger_of_isDigitLike digits] at read
    cases value : readDigits text with
    | error failure =>
        rw [value] at read
        contradiction
    | ok value? =>
        rw [value] at read
        cases value? with
        | none => contradiction
        | some value => exact isReadable_of_readDigits none ‹_›
  · rintro ⟨decimal, short⟩
    exact ⟨_, readInteger_of_isDecimalDigit nonempty decimal short⟩

end RideQuery.Number
