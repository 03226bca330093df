import RideQuery.Proofs.Number.Numeral
import RideQuery.Proofs.Text.Trim

/-!
# Characters of number texts

The text of a number is never empty, and consists of letters, digits, points and signs,
so it can stand in a statement without closing or opening anything.
-/

namespace RideQuery.Number

open RideQuery.Text

/-- The characters that numbers are written with. -/
def IsNumberChar (c : Char) : Prop :=
  c.isAlphanum = true ∨ c = '.' ∨ c = '+' ∨ c = '-'

instance (c : Char) : Decidable (IsNumberChar c) :=
  inferInstanceAs (Decidable (_ ∨ _))

/-- Texts that numbers are written as: not empty, and of the right characters. -/
def NumberText (text : List Char) : Prop :=
  text ≠ [] ∧ ∀ c ∈ text, IsNumberChar c

-- The instance for lists is named, since all characters can be gone through as well.
instance (text : List Char) : Decidable (NumberText text) :=
  @instDecidableAnd _ _ inferInstance (List.decidableBAll IsNumberChar text)

theorem isNumberChar_of_isDigit {c : Char} (digit : c.isDigit = true) : IsNumberChar c := by
  simp [IsNumberChar, Char.isAlphanum, digit]

namespace NumberText

theorem append {text other : List Char} (first : NumberText text)
    (second : ∀ c ∈ other, IsNumberChar c) : NumberText (text ++ other) := by
  constructor
  · exact List.append_ne_nil_of_left_ne_nil first.1 other
  · exact List.forall_mem_append.mpr ⟨first.2, second⟩

theorem cons {c : Char} {text : List Char} (first : IsNumberChar c)
    (rest : ∀ d ∈ text, IsNumberChar d) : NumberText (c :: text) :=
  ⟨List.cons_ne_nil c text, by simpa using ⟨first, rest⟩⟩

theorem digitChars (n : Nat) : NumberText (digitChars n) :=
  ⟨Nat.toDigits_ne_nil, fun _ member =>
    isNumberChar_of_isDigit (Nat.isDigit_of_mem_toDigits (by decide) (by decide) member)⟩

theorem repr (n : Nat) : NumberText (Nat.repr n).toList :=
  ⟨toList_repr_ne_nil n, fun _ member => isNumberChar_of_isDigit (isDigit_of_mem_repr member)⟩

theorem withSign {text : List Char} (unsigned : NumberText text) (negative : Bool) :
    NumberText (withSign negative text) := by
  cases negative with
  | false => exact unsigned
  | true => exact cons (by decide) unsigned.2

theorem integerText (n : Int) : NumberText (integerText n).toList := by
  unfold Number.integerText
  split
  · rw [String.toList_append]
    exact cons (by decide) (repr n.natAbs).2
  · exact repr n.natAbs

theorem dropTrailingZeros {digits : List Char} (number : NumberText digits) :
    NumberText (dropTrailingZeros digits) := by
  unfold Number.dropTrailingZeros
  dsimp only
  split
  · exact cons (by decide) (by simp)
  · next kept =>
      constructor
      · intro empty
        simp [empty] at kept
      · intro c member
        exact number.2 c (mem_of_mem_dropRightWhile member)

theorem exponentChars (exponent : Int) : ∀ c ∈ exponentChars exponent, IsNumberChar c := by
  have digits := (digitChars exponent.natAbs).2
  unfold Number.exponentChars
  intro c member
  rcases List.mem_cons.mp member with rfl | member
  · split <;> decide
  · split at member
    · rcases List.mem_cons.mp member with rfl | member
      · decide
      · exact digits c member
    · exact digits c member

theorem pointAfterFirst {digits : List Char} (number : NumberText digits) :
    NumberText (pointAfterFirst digits) := by
  obtain ⟨nonempty, plain⟩ := number
  match digits with
  | [] => contradiction
  | [digit] => exact ⟨nonempty, plain⟩
  | digit :: next :: rest =>
      rw [List.forall_mem_cons] at plain
      apply cons plain.1
      exact List.forall_mem_cons.mpr ⟨by decide, plain.2⟩

theorem positional {digits : List Char} (number : NumberText digits) (point : Int) :
    NumberText (positional digits point) := by
  have zeros : ∀ count, ∀ c ∈ List.replicate count '0', IsNumberChar c := by
    intro count c member
    rw [List.eq_of_mem_replicate member]
    decide
  unfold Number.positional
  split
  · apply cons (by decide)
    rw [List.forall_mem_cons, List.forall_mem_append]
    exact ⟨by decide, zeros _, number.2⟩
  · next positive =>
      dsimp only
      split
      · exact (number.append (zeros _)).append (by decide : NumberText ['.', '0']).2
      · have whole : digits.take point.toNat ≠ [] := by
          have nonzero : point.toNat ≠ 0 := by omega
          simp [List.take_eq_nil_iff, nonzero, number.1]
        apply append ⟨whole, fun c member => number.2 c (List.mem_of_mem_take member)⟩
        rw [List.forall_mem_cons]
        exact ⟨by decide, fun c member => number.2 c (List.mem_of_mem_drop member)⟩

theorem displayDecimal (decimal : ShortDecimal) : NumberText (displayDecimal decimal) := by
  have digits := (digitChars decimal.digits).dropTrailingZeros
  unfold Number.displayDecimal
  dsimp only
  split
  · exact digits.positional decimal.point
  · apply digits.pointAfterFirst.append
    rw [List.forall_mem_cons]
    exact ⟨by decide, exponentChars _⟩

/-- Every double-precision number has a text. -/
theorem textWith (x : Binary64) : NumberText (x.textWith plainNames) := by
  cases x with
  | nan => exact (by decide : NumberText "nan".toList)
  | infinity negative => exact withSign (by decide : NumberText "inf".toList) negative
  | finite negative significand exponent =>
      unfold Binary64.textWith
      apply withSign
      split
      · exact (by decide : NumberText ['0', '.', '0'])
      · exact displayDecimal _

end NumberText

theorem numberText_of_writeInteger {n : Int} {text : String}
    (written : writeInteger n = .ok text) : NumberText text.toList := by
  rw [writeInteger] at written
  split at written
  · cases written
    exact .integerText n
  · contradiction

theorem writeInteger_injective {m n : Int} {text : String} (first : writeInteger m = .ok text)
    (second : writeInteger n = .ok text) : m = n := by
  rw [writeInteger] at first second
  split at first <;> split at second <;> try contradiction
  exact integerText_injective ((Except.ok.inj first).trans (Except.ok.inj second).symm)

end RideQuery.Number
