import RideQuery.Proofs.Fallible
import RideQuery.Proofs.Number.Numeral
import RideQuery.Proofs.Text.Trim

/-!
# Integer numerals

An integer numeral is a run of decimal digits of any script, with single underscores between
them, a sign in front if need be, and blanks around it.  These are exactly the texts that are
read as integers, unless they have too many digits.
-/

namespace RideQuery.Number

open RideQuery.Text

/-! ## Runs of digits -/

/-- A run of decimal digits with single underscores between them. -/
inductive IsRun : List Char → Prop
  | last {c : Char} (digit : isDecimalDigit c = true) : IsRun [c]
  | digit {c : Char} {rest : List Char} (digit : isDecimalDigit c = true) (run : IsRun rest) :
      IsRun (c :: rest)
  | underscore {c : Char} {rest : List Char} (digit : isDecimalDigit c = true)
      (run : IsRun rest) : IsRun (c :: '_' :: rest)

/-- The values of the digits of a run. -/
def runDigits (text : List Char) : List Nat :=
  text.filterMap digitValue?

theorem ne_underscore_of_isDecimalDigit {c : Char} (digit : isDecimalDigit c = true) :
    c ≠ '_' := by
  rintro rfl
  exact absurd digit (by decide)

theorem runDigits_ne_nil {c : Char} (digit : isDecimalDigit c = true) (rest : List Char) :
    runDigits (c :: rest) ≠ [] := by
  obtain ⟨value, valued⟩ := Option.isSome_iff_exists.mp digit
  rw [runDigits, List.filterMap_cons_some valued]
  exact List.cons_ne_nil _ _

theorem looseUnderscore_cons {c : Char} (other : c ≠ '_') (rest : List Char) :
    looseUnderscore (c :: rest) = looseUnderscore rest := by
  rw [looseUnderscore]
  · exact fun same => absurd same other
  · exact fun _ same => absurd same other

theorem looseUnderscore_underscore_cons {c : Char} (other : c ≠ '_') (rest : List Char) :
    looseUnderscore ('_' :: c :: rest) = looseUnderscore (c :: rest) := by
  rw [looseUnderscore]
  · simp
  · simpa using other

namespace IsRun

variable {text : List Char}

theorem exists_eq_cons (run : IsRun text) :
    ∃ c rest, text = c :: rest ∧ isDecimalDigit c = true := by
  cases run with
  | last digit => exact ⟨_, _, rfl, digit⟩
  | digit digit _ => exact ⟨_, _, rfl, digit⟩
  | underscore digit _ => exact ⟨_, _, rfl, digit⟩

theorem isDecimalDigit_or_eq (run : IsRun text) :
    ∀ c ∈ text, isDecimalDigit c = true ∨ c = '_' := by
  induction run with
  | last digit => simpa using .inl digit
  | digit digit _ inductionHypothesis =>
      exact List.forall_mem_cons.mpr ⟨.inl digit, inductionHypothesis⟩
  | underscore digit _ inductionHypothesis =>
      exact List.forall_mem_cons.mpr
        ⟨.inl digit, List.forall_mem_cons.mpr ⟨.inr rfl, inductionHypothesis⟩⟩

theorem looseUnderscore_eq_false (run : IsRun text) : looseUnderscore text = false := by
  induction run with
  | last digit => rw [looseUnderscore_cons (ne_underscore_of_isDecimalDigit digit)]; rfl
  | digit digit _ inductionHypothesis =>
      rw [looseUnderscore_cons (ne_underscore_of_isDecimalDigit digit), inductionHypothesis]
  | underscore digit run inductionHypothesis =>
      obtain ⟨d, rest, rfl, next⟩ := run.exists_eq_cons
      rw [looseUnderscore_cons (ne_underscore_of_isDecimalDigit digit),
        looseUnderscore_underscore_cons (ne_underscore_of_isDecimalDigit next),
        inductionHypothesis]

/-- A run of ASCII digits or of any others. -/
theorem of_isDecimalDigit (nonempty : text ≠ []) (digits : ∀ c ∈ text, isDecimalDigit c = true) :
    IsRun text := by
  induction text with
  | nil => contradiction
  | cons c rest inductionHypothesis =>
      obtain ⟨first, others⟩ := List.forall_mem_cons.mp digits
      cases rest with
      | nil => exact .last first
      | cons d rest => exact .digit first (inductionHypothesis (List.cons_ne_nil _ _) others)

/-- Digits and underscores are a run if no underscore comes first, last or behind another. -/
theorem of_looseUnderscore (nonempty : text ≠ []) (head : text.head? ≠ some '_')
    (all : ∀ c ∈ text, isDecimalDigit c = true ∨ c = '_') (tight : looseUnderscore text = false) :
    IsRun text := by
  induction size : text.length using Nat.strongRecOn generalizing text with
  | ind size inductionHypothesis =>
      cases text with
      | nil => contradiction
      | cons c rest =>
          obtain ⟨first, others⟩ := List.forall_mem_cons.mp all
          have other : c ≠ '_' := by simpa using head
          have digit := first.resolve_right other
          rw [looseUnderscore_cons other] at tight
          rw [List.length_cons] at size
          cases rest with
          | nil => exact .last digit
          | cons d rest =>
              rw [List.length_cons] at size
              by_cases next : d = '_'
              · subst next
                cases rest with
                | nil => contradiction
                | cons e rest =>
                    have third : e ≠ '_' := by
                      rintro rfl
                      contradiction
                    rw [looseUnderscore_underscore_cons third] at tight
                    exact .underscore digit (inductionHypothesis _ (by omega)
                      (List.cons_ne_nil _ _) (by simpa using third)
                      (List.forall_mem_cons.mp others).2 tight rfl)
              · exact .digit digit (inductionHypothesis _ (by rw [List.length_cons]; omega)
                  (List.cons_ne_nil _ _) (by simpa using next) others tight rfl)

end IsRun

/-! ## Reading runs -/

/-- A run is read as its number, unless it has too many digits. -/
theorem readDigits_of_isRun {text : List Char} (run : IsRun text) :
    readDigits text =
      if maxDigits < (runDigits text).length then .error (.tooManyDigits (runDigits text).length)
      else .ok (some (ofDigits (runDigits text))) := by
  have span : digitSpan text = text := by
    refine List.takeWhile_eq_self_iff.mpr fun c member => ?_
    rw [Bool.or_eq_true, beq_iff_eq]
    exact run.isDecimalDigit_or_eq c member
  obtain ⟨c, rest, begins, digit⟩ := run.exists_eq_cons
  have head : (text.head? == some '_') = false := by
    simpa [begins] using ne_underscore_of_isDecimalDigit digit
  have some : (runDigits text).isEmpty = false := by
    rw [begins, List.isEmpty_eq_false_iff]
    exact runDigits_ne_nil digit rest
  rw [runDigits] at some ⊢
  simp only [readDigits, span, head, some, run.looseUnderscore_eq_false, Bool.or_self,
    Bool.false_eq_true, if_false, beq_self_eq_true, if_true]

/-- What is read as a number is a run with few enough digits. -/
theorem isRun_of_readDigits {text : List Char} {value : Nat}
    (read : readDigits text = .ok (some value)) :
    IsRun text ∧ (runDigits text).length ≤ maxDigits ∧ value = ofDigits (runDigits text) := by
  unfold readDigits at read
  dsimp only at read
  split at read
  · cases read
  · rename_i tight
    split at read
    · cases read
    · rename_i few
      split at read
      · rename_i whole
        have span : digitSpan text = text :=
          (List.takeWhile_prefix _).eq_of_length (beq_iff_eq.mp whole)
        have all := List.takeWhile_eq_self_iff.mp span
        rw [span] at tight few read
        simp only [Bool.or_eq_true, not_or, Bool.not_eq_true, beq_eq_false_iff_ne,
          List.isEmpty_eq_false_iff] at tight
        obtain ⟨⟨head, some⟩, tight⟩ := tight
        have nonempty : text ≠ [] := by
          rintro rfl
          exact some rfl
        refine ⟨.of_looseUnderscore nonempty head ?_ tight, Nat.not_lt.mp few, ?_⟩
        · simpa using all
        · exact (Option.some.inj (Except.ok.inj read)).symm
      · cases read

/-! ## Integers -/

/-- Signs, of which most integers have none. -/
def IsSign (sign : List Char) : Prop :=
  sign = [] ∨ sign = ['+'] ∨ sign = ['-']

/-- The integer of a sign and a run. -/
def signedRun (sign run : List Char) : Int :=
  Binary64.signed (sign == ['-']) (ofDigits (runDigits run))

/-- Texts that stand for an integer, with few enough digits to be read. -/
inductive IsInteger : List Char → Int → Prop
  | numeral {front sign run back : List Char}
      (blankFront : ∀ c ∈ front, isBlank c = true) (blankBack : ∀ c ∈ back, isBlank c = true)
      (isSign : IsSign sign) (isRun : IsRun run) (short : (runDigits run).length ≤ maxDigits) :
      IsInteger (front ++ (sign ++ run ++ back)) (signedRun sign run)

theorem isBlank_of_isRun {run : List Char} (isRun : IsRun run) : ∀ c ∈ run, isBlank c = false := by
  intro c member
  rcases isRun.isDecimalDigit_or_eq c member with digit | rfl
  · exact isBlank_of_isDigitLike (isDigitLike_of_isDecimalDigit digit)
  · decide

theorem isBlank_of_isSign {sign : List Char} (isSign : IsSign sign) :
    ∀ c ∈ sign, isBlank c = false := by
  rcases isSign with rfl | rfl | rfl <;> decide

/-- A sign is taken off what begins with no other sign. -/
theorem dropSign_append {sign rest : List Char} (isSign : IsSign sign)
    (signless : ∀ c ∈ rest.head?, c ≠ '+' ∧ c ≠ '-') :
    dropSign (sign ++ rest) = (sign == ['-'], rest) := by
  rcases isSign with rfl | rfl | rfl
  · rw [List.nil_append]
    unfold dropSign
    split
    · exact absurd rfl (signless '+' rfl).1
    · exact absurd rfl (signless '-' rfl).2
    · rfl
  · rfl
  · rfl

theorem ne_sign_of_isRun {run : List Char} (isRun : IsRun run) :
    ∀ c ∈ run.head?, c ≠ '+' ∧ c ≠ '-' := by
  obtain ⟨c, rest, rfl, digit⟩ := isRun.exists_eq_cons
  rintro c ⟨⟩
  constructor <;>
    · rintro rfl
      exact absurd digit (by decide)

theorem exists_dropSign_eq (text : List Char) :
    ∃ sign rest, IsSign sign ∧ text = sign ++ rest ∧ dropSign text = (sign == ['-'], rest) := by
  unfold dropSign
  split
  · exact ⟨['+'], _, .inr (.inl rfl), rfl, rfl⟩
  · exact ⟨['-'], _, .inr (.inr rfl), rfl, rfl⟩
  · exact ⟨[], _, .inl rfl, rfl, rfl⟩

/-- A trimmed text has no blanks at its ends, not even of those that numerals may have. -/
theorem stripWhile_isNumeralBlank_trim (text : List Char) :
    stripWhile isNumeralBlank (trim text) = trim text := by
  have weaker : ∀ c, isBlank c = false → isNumeralBlank c = false := by
    intro c solid
    rw [isNumeralBlank, solid, Bool.false_and]
  refine stripWhile_eq_self (fun c first => weaker c ?_) fun c last => weaker c ?_
  · exact head?_stripWhile c first
  · exact getLast?_dropRightWhile c last

/-- Of a sign and a run the reader makes their integer, unless there are too many digits. -/
theorem readInteger_append {sign run : List Char} (isSign : IsSign sign) (isRun : IsRun run) :
    readInteger (sign ++ run) =
      if maxDigits < (runDigits run).length then .error (.tooManyDigits (runDigits run).length)
      else .ok (signedRun sign run) := by
  have solid : ∀ c ∈ sign ++ run, isNumeralBlank c = false := by
    intro c member
    have own : isBlank c = false := by
      rcases List.mem_append.mp member with inSign | inRun
      · exact isBlank_of_isSign isSign c inSign
      · exact isBlank_of_isRun isRun c inRun
    rw [isNumeralBlank, own, Bool.false_and]
  have stripped : stripWhile isNumeralBlank (sign ++ run) = sign ++ run :=
    stripWhile_eq_self (fun c first => solid c (List.mem_of_head? first))
      fun c last => solid c (List.mem_of_getLast? last)
  rw [readInteger, stripped, dropSign_append isSign (ne_sign_of_isRun isRun)]
  dsimp only
  rw [readDigits_of_isRun isRun]
  split <;> rfl

/-- A trimmed text is read as an integer exactly if it stands for it. -/
theorem readInteger_trim_eq_ok_iff {text : List Char} {n : Int} :
    readInteger (trim text) = .ok n ↔ IsInteger text n := by
  constructor
  · intro read
    obtain ⟨sign, run, isSign, whole, dropped⟩ := exists_dropSign_eq (trim text)
    obtain ⟨front, back, around, blankFront, blankBack⟩ := exists_append_stripWhile isBlank text
    rw [readInteger, stripWhile_isNumeralBlank_trim, dropped] at read
    obtain ⟨value?, digits, given⟩ := bind_eq_ok_iff.mp read
    cases value? with
    | none => contradiction
    | some value =>
        obtain ⟨isRun, short, rfl⟩ := isRun_of_readDigits digits
        obtain rfl := Except.ok.inj given
        rw [around]
        change IsInteger (front ++ (trim text ++ back)) _
        rw [whole]
        exact .numeral blankFront blankBack isSign isRun short
  · rintro ⟨blankFront, blankBack, isSign, isRun, short⟩
    have solid := List.forall_mem_append.mpr ⟨isBlank_of_isSign isSign, isBlank_of_isRun isRun⟩
    rw [trim, stripWhile_append blankFront blankBack solid,
      readInteger_append isSign isRun, if_neg (Nat.not_lt.mpr short)]

end RideQuery.Number
