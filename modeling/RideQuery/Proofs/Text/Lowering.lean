import RideQuery.Proofs.Text.Case
import RideQuery.Proofs.Text.Search

/-!
# Texts that are lowered to ASCII

Beyond ASCII only the Kelvin sign is lowered to an ASCII letter and nothing else, namely to a
k.  What is lowered to an ASCII word without a k is therefore an ASCII word that is lowered
letter by letter, and only a space is lowered to a space.
-/

namespace RideQuery.Text

/-! ## Letters -/

/-- The images of a run lie beyond ASCII and are characters again. -/
def CaseRun.StaysBeyond (run : CaseRun) : Prop :=
  128 ≤ run.domain.first + run.offset ∧
    (run.domain.last + run.offset < 0xD800 ∨
      0xDFFF < run.domain.first + run.offset ∧ run.domain.last + run.offset < 0x110000)

instance (run : CaseRun) : Decidable run.StaysBeyond :=
  inferInstanceAs (Decidable (_ ∧ (_ ∨ _ ∧ _)))

theorem staysBeyond_of_mem_lowerRuns : ∀ run ∈ lowerRuns,
    run.domain.last < 128 ∨ (run.domain.first = 0x212A ∧ run.domain.last = 0x212A) ∨
      run.StaysBeyond := by
  decide +kernel

/-- A character beyond ASCII has its image there too, unless it is the Kelvin sign. -/
theorem le_toNat_apply_lowerRuns {c : Char} (beyond : 128 ≤ c.toNat) (other : c ≠ '\u212A') :
    128 ≤ (Char.ofNat (CaseRun.apply lowerRuns c.toNat)).toNat := by
  unfold CaseRun.apply
  split
  · rename_i run found
    have contains : run.domain.contains c.toNat = true := by simpa using List.find?_some found
    simp only [CodeRun.contains, Bool.and_eq_true, decide_eq_true_eq] at contains
    obtain small | ⟨first, last⟩ | ⟨large, valid⟩ :=
      staysBeyond_of_mem_lowerRuns run (List.mem_of_find?_eq_some found)
    · omega
    · have kelvin : c.toNat = '\u212A'.toNat := by
        change c.toNat = 0x212A
        omega
      exact absurd (Char.toNat_inj.mp kelvin) other
    · have character : (c.toNat + run.offset).toNat.isValidChar := by
        unfold Nat.isValidChar
        omega
      have image : (Char.ofNat (c.toNat + run.offset).toNat).toNat =
          (c.toNat + run.offset).toNat := by
        rw [Char.ofNat, dif_pos character]
        rfl
      omega
  · rwa [Char.ofNat_toNat]

/-- What a letter is lowered to. -/
theorem lowerIn_cases (casedBefore : Bool) (c : Char) (rest : List Char) :
    (c.toNat < 128 ∧ lowerIn casedBefore c rest = [c.toLower]) ∨
      lowerIn casedBefore c rest = ['k'] ∨ lowerIn casedBefore c rest = ['i', '\u0307'] ∨
      ∃ letter, lowerIn casedBefore c rest = [letter] ∧ 128 ≤ letter.toNat := by
  by_cases ascii : c.toNat < 128
  · exact .inl ⟨ascii, lowerIn_of_ascii ascii casedBefore rest⟩
  right
  by_cases sigma : c = 'Σ'
  · subst sigma
    refine .inr (.inr ⟨if casedBefore && !casedNext rest then 'ς' else 'σ', rfl, ?_⟩)
    cases casedBefore && !casedNext rest <;> decide
  rw [lowerIn_of_ne_sigma sigma, lowerChar, if_neg ascii]
  by_cases dotted : c = 'İ'
  · subst dotted
    exact .inr (.inl rfl)
  rw [if_neg (by simpa using dotted)]
  by_cases kelvin : c = '\u212A'
  · subst kelvin
    exact .inl (by decide +kernel)
  · exact .inr (.inr ⟨_, rfl, le_toNat_apply_lowerRuns (Nat.le_of_not_lt ascii) kelvin⟩)

/-- Only a space is lowered to a space. -/
theorem eq_space_of_mem_lowerIn {casedBefore : Bool} {c : Char} {rest : List Char}
    (member : ' ' ∈ lowerIn casedBefore c rest) : c = ' ' := by
  obtain ⟨ascii, lowered⟩ | lowered | lowered | ⟨letter, lowered, beyond⟩ :=
    lowerIn_cases casedBefore c rest
  · have lowersToSpace : ∀ c : Char, c.toNat < 128 → ' ' = c.toLower → c = ' ' :=
      forall_ascii (by decide)
    exact lowersToSpace c ascii (List.mem_singleton.mp (lowered ▸ member))
  · rw [lowered] at member
    exact absurd member (by decide)
  · rw [lowered] at member
    exact absurd member (by decide)
  · rw [lowered, List.mem_singleton] at member
    subst member
    exact absurd beyond (by decide)

theorem toLower_of_beyond {c : Char} (beyond : 128 ≤ c.toNat) : c.toLower = c := by
  unfold Char.toLower
  rw [dif_neg]
  rintro ⟨-, upper⟩
  have bound : c.toNat ≤ 90 := UInt32.le_iff_toNat_le.mp upper
  omega

/-! ## Words -/

/-- A text that is lowered to ASCII letters other than k is in ASCII. -/
theorem isAscii_of_lowerFrom {casedBefore : Bool} {text : List Char}
    (ascii : IsAscii (lowerFrom casedBefore text)) (free : 'k' ∉ lowerFrom casedBefore text) :
    IsAscii text := by
  induction text generalizing casedBefore with
  | nil => exact ascii
  | cons c text inductionHypothesis =>
      rw [lowerFrom, isAscii_append] at ascii
      rw [lowerFrom, List.mem_append, not_or] at free
      rw [IsAscii, List.forall_mem_cons]
      refine ⟨?_, inductionHypothesis ascii.2 free.2⟩
      obtain ⟨small, -⟩ | lowered | lowered | ⟨letter, lowered, beyond⟩ :=
        lowerIn_cases casedBefore c text
      · exact small
      · exact absurd (lowered ▸ List.mem_singleton_self 'k') free.1
      · exact absurd (lowered ▸ ascii.1) (by decide)
      · have small := ascii.1 letter (lowered ▸ List.mem_singleton_self letter)
        omega

/-- A text is lowered to an ASCII word without a k exactly if its letters are. -/
theorem lower_eq_iff_of_isAscii {text word : List Char} (ascii : IsAscii word)
    (free : 'k' ∉ word) : lower text = word ↔ text.map Char.toLower = word := by
  constructor
  · rintro rfl
    rw [lower_of_isAscii (isAscii_of_lowerFrom ascii free)]
  · rintro rfl
    apply lower_of_isAscii
    intro c member
    by_contra beyond
    have image := ascii _ (List.mem_map_of_mem member)
    rw [toLower_of_beyond (Nat.le_of_not_lt beyond)] at image
    exact beyond image

/-! ## Spaces -/

theorem exists_of_lowerFrom_append_space {casedBefore : Bool} {text front back : List Char}
    (lowered : lowerFrom casedBefore text = front ++ ' ' :: back) :
    ∃ before behind, text = before ++ ' ' :: behind ∧
      lowerFrom casedBefore before = front ∧ lower behind = back := by
  induction text generalizing casedBefore front with
  | nil => simp [lowerFrom] at lowered
  | cons c text inductionHypothesis =>
      rw [lowerFrom] at lowered
      obtain ⟨between, rfl, rest⟩ | ⟨own, nonempty, letter, rest⟩ := apart_or_overlap lowered
      · -- The space is behind what the first letter is lowered to.
        obtain ⟨before, behind, rfl, rfl, rfl⟩ := inductionHypothesis rest
        refine ⟨c :: before, behind, rfl, ?_, rfl⟩
        rw [lowerFrom, lowerIn_append_space]
      · obtain ⟨d, left, rfl⟩ := List.exists_cons_of_ne_nil nonempty
        obtain ⟨rfl, back_eq⟩ := List.cons.inj rest
        have member : ' ' ∈ front ++ ' ' :: left := List.mem_append_right _ (.head _)
        obtain rfl := eq_space_of_mem_lowerIn (letter ▸ member)
        have own : lowerIn casedBefore ' ' text = [' '] := lowerIn_of_ne_sigma (by decide) ..
        have after : casedAfter casedBefore ' ' = false := by cases casedBefore <;> decide +kernel
        obtain ⟨rfl, same⟩ | ⟨-, none⟩ := List.append_eq_singleton_iff.mp (letter.symm.trans own)
        · obtain rfl := List.tail_eq_of_cons_eq same
          rw [after] at back_eq
          exact ⟨[], text, rfl, rfl, back_eq.symm⟩
        · exact absurd none (List.cons_ne_nil _ _)

/-- A space in a lowered text is one of the text, and what is around it is lowered by itself. -/
theorem lower_eq_append_space_iff {text front back : List Char} :
    lower text = front ++ ' ' :: back ↔
      ∃ before behind, text = before ++ ' ' :: behind ∧ lower before = front ∧
        lower behind = back := by
  constructor
  · exact exists_of_lowerFrom_append_space
  · rintro ⟨before, behind, rfl, rfl, rfl⟩
    exact lower_append_space before behind

end RideQuery.Text
