import RideQuery.Proofs.Text.Case
import RideQuery.Proofs.Text.Search
import RideQuery.Question.Dates

/-!
# Months that are not looked up

A month is recognised letter by letter up to case, and three letters outside ASCII stand
for one of its own.  In lower case they are still outside ASCII, so that a month which was
recognised by one of them is none of the twelve names.
-/

namespace RideQuery.Question

open RideQuery.Text

/-! ## Letters up to case -/

/-- Characters outside ASCII. -/
def IsForeign (c : Char) : Prop :=
  128 ≤ c.toNat

instance (c : Char) : Decidable (IsForeign c) :=
  inferInstanceAs (Decidable (_ ≤ _))

/-- Letters whose only forms up to case are their own and those of `s` and `i`. -/
def IsMonthLetter (letter : Char) : Prop :=
  ¬IsForeign letter ∧ letter ≠ 'k' ∧ letter ≠ 'Σ' ∧ letter.toUpper ≠ 'Σ' ∧
    lowerChar letter = [letter] ∧ lowerChar letter.toUpper = [letter]

instance (letter : Char) : Decidable (IsMonthLetter letter) :=
  inferInstanceAs (Decidable (_ ∧ _))

/-- Words of such letters. -/
def IsMonthWord (word : List Char) : Prop :=
  ∀ letter ∈ word, IsMonthLetter letter

instance (word : List Char) : Decidable (IsMonthWord word) :=
  List.decidableBAll IsMonthLetter word

theorem isMonthWord_of_mem {month : String} (member : month ∈ months) :
    IsMonthWord month.toList := by
  have all : ∀ month ∈ months, IsMonthWord month.toList := by decide
  exact all month member

theorem lowerIn_of_foldsTo {letter c : Char} (own : IsMonthLetter letter)
    (folds : foldsTo letter c = true) (casedBefore : Bool) (rest : List Char) :
    lowerIn casedBefore c rest = [letter] ∨ ∃ d ∈ lowerIn casedBefore c rest, IsForeign d := by
  obtain ⟨_, notK, notSigma, upperNotSigma, small, capital⟩ := own
  simp only [foldsTo, Bool.or_eq_true, Bool.and_eq_true, beq_iff_eq] at folds
  have alone := fun {d : Char} (ne : d ≠ 'Σ') => lowerIn_of_ne_sigma ne casedBefore rest
  rcases folds with (((rfl | rfl) | ⟨_, rfl⟩) | ⟨rfl, _⟩) | ⟨_, rfl | rfl⟩
  · exact .inl ((alone notSigma).trans small)
  · exact .inl ((alone upperNotSigma).trans capital)
  · exact .inr ⟨'ſ', by rw [alone (by decide)]; decide, by decide⟩
  · contradiction
  · exact .inr ⟨'\u0307', by rw [alone (by decide)]; decide, by decide⟩
  · exact .inr ⟨'ı', by rw [alone (by decide)]; decide, by decide⟩

/-- In lower case, a word that was met up to case is itself or has a letter outside ASCII. -/
theorem lowerFrom_of_folds {word written : List Char}
    (folds : List.Forall₂ (fun letter c => foldsTo letter c = true) word written)
    (own : IsMonthWord word) (casedBefore : Bool) :
    lowerFrom casedBefore written = word ∨ ∃ c ∈ lowerFrom casedBefore written, IsForeign c := by
  induction folds generalizing casedBefore with
  | nil => exact .inl rfl
  | @cons letter c word written fold _ inductionHypothesis =>
      rw [IsMonthWord, List.forall_mem_cons] at own
      rw [lowerFrom]
      rcases lowerIn_of_foldsTo own.1 fold casedBefore written with same | ⟨d, inside, foreign⟩
      · rcases inductionHypothesis own.2 (casedAfter casedBefore c) with
          rest | ⟨d, inside, foreign⟩
        · left
          rw [same, rest]
          rfl
        · right
          exact ⟨d, List.mem_append_right _ inside, foreign⟩
      · right
        exact ⟨d, List.mem_append_left _ inside, foreign⟩

/-! ## Names of months -/

/-- A recognised month is one of the twelve, or it has a letter outside ASCII. -/
theorem month_or_foreign {before : Option Char} {text name : List Char}
    (recognised : monthName before text = some name) :
    (∃ month ∈ months, name = month.toList) ∨ ∃ c ∈ name, IsForeign c := by
  obtain ⟨⟨written, left⟩, found, rest⟩ := Option.bind_eq_some_iff.mp recognised
  obtain ⟨_, _, done⟩ := Option.bind_eq_some_iff.mp rest
  obtain rfl := Option.some.inj done
  rw [wholeWord] at found
  split at found
  · obtain ⟨month, member, dropped, _⟩ := exists_of_dropWord found
    rcases lowerFrom_of_folds (dropFolded_eq_some_iff.mp dropped).1
      (isMonthWord_of_mem member) false with same | foreign
    · exact .inl ⟨month, member, same⟩
    · exact .inr foreign
  · contradiction

theorem isOk_monthNumber {month : String} (member : month ∈ months) :
    ∃ number, monthNumber month.toList = .ok number := by
  have known : (months.findIdx? fun other => other.toList == month.toList).isSome = true := by
    rw [List.findIdx?_isSome, List.any_eq_true]
    exact ⟨month, member, beq_self_eq_true _⟩
  obtain ⟨index, found⟩ := Option.isSome_iff_exists.mp known
  rw [monthNumber, found]
  exact ⟨_, rfl⟩

theorem mem_months_of_monthNumber {name : List Char} {number : String}
    (numbered : monthNumber name = .ok number) : ∃ month ∈ months, name = month.toList := by
  rw [monthNumber] at numbered
  split at numbered
  · rename_i index position
    obtain ⟨inside, same, _⟩ := List.findIdx?_eq_some_iff_getElem.mp position
    exact ⟨months[index], List.getElem_mem inside, (beq_iff_eq.mp same).symm⟩
  · contradiction

/-- Exactly the months that are recognised by a letter outside ASCII have no number. -/
theorem monthNumber_eq_error_iff {before : Option Char} {text name : List Char}
    (recognised : monthName before text = some name) {failure : DateError} :
    monthNumber name = .error failure ↔
      (∃ c ∈ name, IsForeign c) ∧ failure = .strangeMonth := by
  constructor
  · intro failed
    constructor
    · rcases month_or_foreign recognised with ⟨month, member, rfl⟩ | foreign
      · obtain ⟨number, numbered⟩ := isOk_monthNumber member
        rw [numbered] at failed
        contradiction
      · exact foreign
    · rw [monthNumber] at failed
      split at failed
      · contradiction
      · exact (Except.error.inj failed).symm
  · rintro ⟨⟨c, inside, foreign⟩, rfl⟩
    cases numbered : monthNumber name with
    | error failure =>
        rw [monthNumber] at numbered
        split at numbered
        · contradiction
        · rw [← Except.error.inj numbered]
    | ok number =>
        obtain ⟨month, member, rfl⟩ := mem_months_of_monthNumber numbered
        exact absurd foreign (isMonthWord_of_mem member c inside).1

/-- Texts whose first month is recognised by a letter outside ASCII. -/
def NamesStrangeMonth (text : List Char) : Prop :=
  ∃ name, findFirst monthName none text = some name ∧ ∃ c ∈ name, IsForeign c

theorem specificMonth_eq_error_iff {text : List Char} {failure : DateError} :
    specificMonth text = .error failure ↔
      NamesStrangeMonth text ∧ failure = .strangeMonth := by
  rw [specificMonth, NamesStrangeMonth]
  cases search : findFirst monthName none text with
  | none => simp
  | some name =>
      obtain ⟨before, text', recognised⟩ := exists_of_findFirst search
      have failed : (monthNumber name).map some = .error failure ↔
          monthNumber name = .error failure := by
        cases monthNumber name <;> simp [Except.map]
      simp only [Option.some.injEq, exists_eq_left', failed]
      exact monthNumber_eq_error_iff recognised

end RideQuery.Question
