import Mathlib.Data.List.Basic
import RideQuery.Proofs.Text.Trim
import RideQuery.Text.Search

/-!
# Words and the gaps between them

A text falls into words at its blanks.  Words that are written one after the other with
nothing but blanks between them are the words of what is written.
-/

namespace RideQuery.Text

/-! ## Blanks -/

/-- The codes of the blanks. -/
def blankCodes : List Nat :=
  List.range' 9 5 ++ List.range' 28 5 ++ [133, 160, 5760] ++ List.range' 8192 11 ++
    [8232, 8233, 8239, 8287, 12288]

theorem mem_blankCodes {c : Char} (blank : isBlank c = true) : c.toNat ∈ blankCodes := by
  simp only [isBlank, Bool.or_eq_true, Bool.and_eq_true, decide_eq_true_eq, beq_iff_eq] at blank
  simp only [blankCodes, List.mem_append, List.mem_range'_1, List.mem_cons, List.not_mem_nil,
    or_false]
  omega

theorem isWordChar_of_isBlank {c : Char} (blank : isBlank c = true) : isWordChar c = false := by
  have all : ∀ code ∈ blankCodes, isWordChar (Char.ofNat code) = false := by decide +kernel
  rw [← Char.ofNat_toNat c]
  exact all c.toNat (mem_blankCodes blank)

theorem isWordAt_of_isBlank {blanks : List Char} (areBlanks : ∀ c ∈ blanks, isBlank c = true) :
    isWordAt blanks.head? = false := by
  cases blanks with
  | nil => rfl
  | cons c blanks => exact isWordChar_of_isBlank (areBlanks c List.mem_cons_self)

theorem toNat_of_isAlphanum {c : Char} (alphanum : c.isAlphanum = true) :
    (48 ≤ c.toNat ∧ c.toNat ≤ 57) ∨ (65 ≤ c.toNat ∧ c.toNat ≤ 90) ∨
      (97 ≤ c.toNat ∧ c.toNat ≤ 122) := by
  change (decide (65 ≤ c.val ∧ c.val ≤ 90) ||
    decide (97 ≤ c.val) && decide (c.val ≤ 122) ||
    decide (48 ≤ c.val) && decide (c.val ≤ 57)) = true at alphanum
  simp only [Bool.or_eq_true, Bool.and_eq_true, decide_eq_true_eq,
    UInt32.le_iff_toNat_le] at alphanum
  rcases alphanum with (upper | lower) | digit
  · exact .inr (.inl upper)
  · exact .inr (.inr lower)
  · exact .inl digit

theorem isBlank_of_isAlphanum {c : Char} (alphanum : c.isAlphanum = true) : isBlank c = false := by
  have range := toNat_of_isAlphanum alphanum
  simp only [isBlank, Bool.or_eq_false_iff, Bool.and_eq_false_iff, decide_eq_false_iff_not,
    beq_eq_false_iff_ne]
  omega

theorem isBlank_of_isWordChar {c : Char} (inside : isWordChar c = true) : isBlank c = false := by
  cases blank : isBlank c with
  | false => rfl
  | true =>
      rw [isWordChar_of_isBlank blank] at inside
      contradiction

theorem isWordChar_of_isAlphanum {c : Char} (alphanum : c.isAlphanum = true) :
    isWordChar c = true := by
  have range := toNat_of_isAlphanum alphanum
  rw [isWordChar, if_pos (by omega), alphanum, Bool.true_or]

/-- A blank behind a text is like the end of the text. -/
theorem isWordAt_head?_append_blank {c : Char} (blank : isBlank c = true)
    (text rest : List Char) : isWordAt (text ++ c :: rest).head? = isWordAt text.head? := by
  cases text with
  | nil => exact isWordChar_of_isBlank blank
  | cons d text => rfl

/-- A blank in front of a text is like the start of the text. -/
theorem isWordAt_getLast?_append_blank {c : Char} (blank : isBlank c = true)
    (front text : List Char) :
    isWordAt (front ++ c :: text).getLast? = isWordAt text.getLast? := by
  rw [List.getLast?_append, List.getLast?_cons]
  cases text.getLast? with
  | none => exact isWordChar_of_isBlank blank
  | some d => rfl

/-! ## Gaps -/

/-- At least one blank, and nothing else. -/
def IsGap (text : List Char) : Prop :=
  text ≠ [] ∧ ∀ c ∈ text, isBlank c = true

instance (text : List Char) : Decidable (IsGap text) :=
  inferInstanceAs (Decidable (_ ∧ _))

/-- What stands behind a gap does not go on a run of characters among which is no blank. -/
theorem IsGap.head?_append {gap : List Char} (isGap : IsGap gap) {inside : Char → Bool}
    (solid : ∀ c, inside c = true → isBlank c = false) (rest : List Char) :
    ∀ c ∈ (gap ++ rest).head?, inside c = false := by
  intro c first
  rw [List.head?_append_of_ne_nil _ isGap.1] at first
  have blank := isGap.2 c (List.mem_of_mem_head? first)
  rw [← Bool.not_eq_true]
  intro within
  exact absurd blank (Bool.eq_false_iff.mp (solid c within))

theorem dropBlanks_eq_some_iff {text next : List Char} :
    dropBlanks text = some next ↔
      ∃ gap, IsGap gap ∧ text = gap ++ next ∧ ∀ c ∈ next.head?, isBlank c = false := by
  constructor
  · intro dropped
    cases text with
    | nil => contradiction
    | cons c rest =>
        rw [dropBlanks] at dropped
        split at dropped
        · rename_i blank
          obtain rfl := Option.some.inj dropped
          refine ⟨c :: rest.takeWhile isBlank, ⟨List.cons_ne_nil _ _, ?_⟩, ?_, head?_dropWhile⟩
          · rw [List.forall_mem_cons]
            exact ⟨blank, fun d => List.mem_takeWhile_imp⟩
          · rw [List.cons_append, List.takeWhile_append_dropWhile]
        · contradiction
  · rintro ⟨gap, ⟨nonempty, blank⟩, rfl, stops⟩
    cases gap with
    | nil => contradiction
    | cons c gap =>
        rw [List.forall_mem_cons] at blank
        rw [List.cons_append, dropBlanks, if_pos blank.1,
          (takeWhile_append_of_all blank.2 stops).2]

/-! ## Words -/

/-- At least one character, and no blank. -/
def IsWord (text : List Char) : Prop :=
  text ≠ [] ∧ ∀ c ∈ text, isBlank c = false

theorem IsWord.head?_append {word : List Char} (isWord : IsWord word) (rest : List Char) :
    ∀ c ∈ (word ++ rest).head?, isBlank c = false := by
  intro c first
  rw [List.head?_append_of_ne_nil _ isWord.1] at first
  exact isWord.2 c (List.mem_of_mem_head? first)

theorem words_ne_nil {text : List Char} (begins : startsBlank text = false) :
    words text ≠ [] := by
  cases text with
  | nil => contradiction
  | cons c text =>
      have solid : ¬isBlank c = true := Bool.eq_false_iff.mp begins
      rw [words, if_neg solid]
      split
      · exact List.cons_ne_nil _ _
      · cases words text <;> exact List.cons_ne_nil _ _

/-- A text falls apart at any blank. -/
theorem words_append_blank {c : Char} (blank : isBlank c = true) (front back : List Char) :
    words (front ++ c :: back) = words front ++ words back := by
  induction front with
  | nil => simp [words, blank]
  | cons d front inductionHypothesis =>
      have begins : startsBlank (front ++ c :: back) = startsBlank front := by
        cases front with
        | nil => exact blank
        | cons e front => rfl
      rw [List.cons_append, words, words, begins, inductionHypothesis]
      split
      · rfl
      · split
        · rfl
        · rename_i inside
          have nonempty := words_ne_nil (Bool.eq_false_iff.mpr inside)
          cases own : words front with
          | nil => contradiction
          | cons word rest => rfl

theorem words_of_isWord {word : List Char} (isWord : IsWord word) : words word = [word] := by
  rcases isWord with ⟨nonempty, solid⟩
  induction word with
  | nil => contradiction
  | cons c word inductionHypothesis =>
      rw [List.forall_mem_cons] at solid
      rw [words, if_neg (Bool.eq_false_iff.mp solid.1)]
      cases word with
      | nil => rfl
      | cons d word =>
          have inside : startsBlank (d :: word) = false := solid.2 d List.mem_cons_self
          rw [if_neg (Bool.eq_false_iff.mp inside),
            inductionHypothesis (List.cons_ne_nil _ _) solid.2]
          rfl

/-- Words that are joined by single spaces are the words of the joined text. -/
theorem words_unwords {parts : List (List Char)} (areWords : ∀ part ∈ parts, IsWord part) :
    words (unwords parts) = parts := by
  induction parts with
  | nil => rfl
  | cons word parts inductionHypothesis =>
      rw [List.forall_mem_cons] at areWords
      cases parts with
      | nil => simpa [unwords] using words_of_isWord areWords.1
      | cons next parts =>
          have joined :
              unwords (word :: next :: parts) = word ++ ' ' :: unwords (next :: parts) := by
            simp [unwords, List.intercalate_cons_cons]
          rw [joined, words_append_blank rfl, words_of_isWord areWords.1,
            inductionHypothesis areWords.2]
          rfl

/-- The last of some joined words stands at the end, behind the others and their spaces. -/
theorem unwords_append_singleton (front : List (List Char)) (word : List Char) :
    unwords (front ++ [word]) = (front.flatMap fun other => other ++ [' ']) ++ word := by
  induction front with
  | nil => simp [unwords]
  | cons other front inductionHypothesis =>
      have joined : unwords (other :: (front ++ [word])) =
          other ++ ' ' :: unwords (front ++ [word]) := by
        cases front <;> simp [unwords, List.intercalate_cons_cons]
      rw [List.cons_append, joined, inductionHypothesis, List.flatMap_cons]
      simp

/-! ## Words within a text -/

/-- Words as they are written one after the other, with nothing but blanks between them. -/
inductive IsSpaced : List (List Char) → List Char → Prop
  | single (word : List Char) : IsSpaced [word] word
  | cons {gap written : List Char} {rest : List (List Char)} (word : List Char)
      (isGap : IsGap gap) (spaced : IsSpaced rest written) :
      IsSpaced (word :: rest) (word ++ (gap ++ written))

namespace IsSpaced

theorem exists_first {row : List (List Char)} {written : List Char}
    (spaced : IsSpaced row written) :
    ∃ word others behind, row = word :: others ∧ written = word ++ behind := by
  cases spaced with
  | single => exact ⟨written, [], [], rfl, (List.append_nil written).symm⟩
  | cons word _ _ => exact ⟨word, _, _, rfl, rfl⟩

theorem row_ne_nil {row : List (List Char)} {written : List Char}
    (spaced : IsSpaced row written) : row ≠ [] := by
  rcases spaced.exists_first with ⟨word, others, _, rfl, _⟩
  exact List.cons_ne_nil word others

theorem head?_append {row : List (List Char)} {written : List Char}
    (spaced : IsSpaced row written) (areWords : ∀ word ∈ row, IsWord word) (rest : List Char) :
    ∀ c ∈ (written ++ rest).head?, isBlank c = false := by
  rcases spaced.exists_first with ⟨word, others, behind, rfl, rfl⟩
  rw [List.append_assoc]
  exact (areWords word List.mem_cons_self).head?_append _

theorem infix_of_mem {row : List (List Char)} {word written : List Char}
    (spaced : IsSpaced row written) (inside : word ∈ row) : word <:+: written := by
  induction spaced with
  | single other =>
      obtain rfl := List.mem_singleton.mp inside
      exact List.infix_rfl
  | @cons gap written rest other isGap spaced inductionHypothesis =>
      rcases List.mem_cons.mp inside with rfl | later
      · exact (List.prefix_append word _).isInfix
      · have behind := inductionHypothesis later
        exact List.infix_append_of_infix_right (List.infix_append_of_infix_right behind)

/-- The first words of a row stand at its front. -/
theorem exists_front {front back : List (List Char)} {written : List Char}
    (spaced : IsSpaced (front ++ back) written) (nonempty : front ≠ []) :
    ∃ own behind, written = own ++ behind ∧ IsSpaced front own := by
  induction front generalizing written with
  | nil => contradiction
  | cons word front inductionHypothesis =>
      cases front with
      | nil =>
          cases spaced with
          | single => exact ⟨word, [], by simp, .single word⟩
          | cons _ _ _ => exact ⟨word, _, rfl, .single word⟩
      | cons next front =>
          cases spaced with
          | @cons gap written rest _ isGap spaced =>
              rcases inductionHypothesis spaced (List.cons_ne_nil _ _) with
                ⟨own, behind, rfl, frontSpaced⟩
              exact ⟨word ++ (gap ++ own), behind, by simp, .cons word isGap frontSpaced⟩

/-- The last word of a row may be cut short. -/
theorem exists_cut {front : List (List Char)} {word ends written : List Char}
    (spaced : IsSpaced (front ++ [word ++ ends]) written) :
    ∃ own, written = own ++ ends ∧ IsSpaced (front ++ [word]) own := by
  induction front generalizing written with
  | nil =>
      cases spaced with
      | single => exact ⟨word, rfl, .single word⟩
      | cons _ _ rest => cases rest
  | cons other front inductionHypothesis =>
      -- Whether words stand in between or not, the last one is in the rest of the row.
      cases front
      all_goals
        cases spaced with
        | @cons gap written rest _ isGap spaced =>
            rcases inductionHypothesis spaced with ⟨own, rfl, cut⟩
            exact ⟨other ++ (gap ++ own), by simp, .cons other isGap cut⟩

end IsSpaced

end RideQuery.Text
