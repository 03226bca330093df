import Mathlib.Data.List.Basic
import RideQuery.Text.Case

/-!
# Case of texts that are put together

A space has no case and hides nothing from a sigma, so that both sides of it are lowered
as they are alone.  In ASCII, letters are lowered and raised one by one.
-/

namespace RideQuery.Text

theorem lowerIn_of_ne_sigma {c : Char} (notSigma : c ≠ 'Σ') (casedBefore : Bool)
    (rest : List Char) : lowerIn casedBefore c rest = lowerChar c := by
  rw [lowerIn, if_neg]
  simpa using notSigma

/-! ## Texts with a space between them -/

theorem casedNext_append_space (text rest : List Char) :
    casedNext (text ++ ' ' :: rest) = casedNext text := by
  induction text with
  | nil =>
      have seen : isCaseIgnorable ' ' = false := by decide +kernel
      have plain : isCased ' ' = false := by decide
      simp [casedNext, seen, plain]
  | cons c text inductionHypothesis =>
      rw [List.cons_append, casedNext, casedNext, inductionHypothesis]

theorem lowerIn_append_space (casedBefore : Bool) (c : Char) (text rest : List Char) :
    lowerIn casedBefore c (text ++ ' ' :: rest) = lowerIn casedBefore c text := by
  rw [lowerIn, lowerIn, casedNext_append_space]

theorem lowerFrom_append_space (casedBefore : Bool) (text rest : List Char) :
    lowerFrom casedBefore (text ++ ' ' :: rest) =
      lowerFrom casedBefore text ++ ' ' :: lower rest := by
  induction text generalizing casedBefore with
  | nil =>
      have after : casedAfter casedBefore ' ' = false := by cases casedBefore <;> decide +kernel
      have own : lowerIn casedBefore ' ' rest = [' '] := lowerIn_of_ne_sigma (by decide) ..
      simp [lowerFrom, own, after, lower]
  | cons c text inductionHypothesis =>
      rw [List.cons_append, lowerFrom, lowerFrom, lowerIn_append_space, inductionHypothesis,
        List.append_assoc]

theorem lower_append_space (text rest : List Char) :
    lower (text ++ ' ' :: rest) = lower text ++ ' ' :: lower rest :=
  lowerFrom_append_space false text rest

theorem titleFrom_append_space (casedBefore inWord : Bool) (text rest : List Char) :
    titleFrom casedBefore inWord (text ++ ' ' :: rest) =
      titleFrom casedBefore inWord text ++ ' ' :: title rest := by
  induction text generalizing casedBefore inWord with
  | nil =>
      have after : casedAfter casedBefore ' ' = false := by cases casedBefore <;> decide +kernel
      have plain : isCased ' ' = false := by decide
      have lowered : lowerIn casedBefore ' ' rest = [' '] := lowerIn_of_ne_sigma (by decide) ..
      have raised : titleChar ' ' = [' '] := by decide +kernel
      cases inWord <;> simp [titleFrom, lowered, raised, after, plain, title]
  | cons c text inductionHypothesis =>
      rw [List.cons_append, titleFrom, titleFrom, lowerIn_append_space, inductionHypothesis,
        List.append_assoc]

theorem title_append_space (text rest : List Char) :
    title (text ++ ' ' :: rest) = title text ++ ' ' :: title rest :=
  titleFrom_append_space false false text rest

/-! ## ASCII -/

/-- Texts of ASCII characters. -/
def IsAscii (text : List Char) : Prop :=
  ∀ c ∈ text, c.toNat < 128

instance (text : List Char) : Decidable (IsAscii text) :=
  List.decidableBAll (fun c : Char => c.toNat < 128) text

theorem isAscii_append {front back : List Char} :
    IsAscii (front ++ back) ↔ IsAscii front ∧ IsAscii back :=
  List.forall_mem_append

/-- Each ASCII character is lowered by itself. -/
theorem lowerIn_of_ascii {c : Char} (ascii : c.toNat < 128) (casedBefore : Bool)
    (rest : List Char) : lowerIn casedBefore c rest = [c.toLower] := by
  have notSigma : c ≠ 'Σ' := by
    rintro rfl
    exact absurd ascii (by decide)
  rw [lowerIn_of_ne_sigma notSigma, lowerChar, if_pos ascii]

theorem lowerFrom_of_isAscii {text : List Char} (ascii : IsAscii text) (casedBefore : Bool) :
    lowerFrom casedBefore text = text.map Char.toLower := by
  induction text generalizing casedBefore with
  | nil => rfl
  | cons c text inductionHypothesis =>
      rw [IsAscii, List.forall_mem_cons] at ascii
      rw [lowerFrom, lowerIn_of_ascii ascii.1, inductionHypothesis ascii.2]
      rfl

theorem lower_of_isAscii {text : List Char} (ascii : IsAscii text) :
    lower text = text.map Char.toLower :=
  lowerFrom_of_isAscii ascii false

/-- What holds of the characters with the first codes holds of every ASCII character. -/
theorem forall_ascii {holds : Char → Prop} (codes : ∀ code < 128, holds (Char.ofNat code)) :
    ∀ c : Char, c.toNat < 128 → holds c := by
  intro c ascii
  have own := codes c.toNat ascii
  rwa [Char.ofNat_toNat] at own

/-- What the cases of an ASCII character are. -/
theorem cases_of_ascii : ∀ c : Char, c.toNat < 128 →
    titleChar c = [c.toUpper] ∧ c.toUpper.toNat < 128 ∧ c.toLower.toNat < 128 ∧
      c.toUpper.toLower = c.toLower ∧ c.toLower.toLower = c.toLower :=
  forall_ascii (by decide +kernel)

/-- Title case leaves a text as it is up to the case of its letters. -/
theorem titleFrom_of_isAscii {text : List Char} (ascii : IsAscii text)
    (casedBefore inWord : Bool) :
    IsAscii (titleFrom casedBefore inWord text) ∧
      (titleFrom casedBefore inWord text).map Char.toLower = text.map Char.toLower := by
  induction text generalizing casedBefore inWord with
  | nil => exact ⟨ascii, rfl⟩
  | cons c text inductionHypothesis =>
      rw [IsAscii, List.forall_mem_cons] at ascii
      obtain ⟨raised, upperAscii, lowerAscii, upperLowered, lowerLowered⟩ :=
        cases_of_ascii c ascii.1
      rcases inductionHypothesis ascii.2 (casedAfter casedBefore c) (isCased c) with
        ⟨restAscii, rest⟩
      rw [titleFrom, isAscii_append, List.map_append, rest, List.map_cons]
      cases inWord with
      | true =>
          rw [if_pos rfl, lowerIn_of_ascii ascii.1]
          exact ⟨⟨by simpa [IsAscii] using lowerAscii, restAscii⟩, by simp [lowerLowered]⟩
      | false =>
          rw [if_neg Bool.false_ne_true, raised]
          exact ⟨⟨by simpa [IsAscii] using upperAscii, restAscii⟩, by simp [upperLowered]⟩

theorem isAscii_title {text : List Char} (ascii : IsAscii text) : IsAscii (title text) :=
  (titleFrom_of_isAscii ascii false false).1

/-- An ASCII text in title case is the same text up to case. -/
theorem lower_title {text : List Char} (ascii : IsAscii text) :
    lower (title text) = lower text := by
  rcases titleFrom_of_isAscii ascii false false with ⟨titleAscii, same⟩
  rw [lower_of_isAscii ascii, title, lower_of_isAscii titleAscii, same]

end RideQuery.Text
