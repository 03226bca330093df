import RideQuery.Proofs.Json.Token
import RideQuery.Proofs.Number.DecimalNumeral
import RideQuery.Proofs.Number.Integer

/-!
# Numerals of JSON

A numeral is a sign, a whole part without noughts in front, and possibly a fraction and an
exponent.  Of a text the reader takes the longest numeral that it begins with.  The only
numerals that it cannot read are integers with too many digits.
-/

namespace RideQuery.Json

open RideQuery.Text RideQuery.Number

/-! ## Parts of a numeral -/

/-- A run of ASCII digits. -/
def IsDigits (text : List Char) : Prop :=
  text ≠ [] ∧ ∀ c ∈ text, c.isDigit = true

instance (text : List Char) : Decidable (IsDigits text) :=
  @instDecidableAnd _ _ inferInstance (List.decidableBAll _ text)

/-- A point with digits behind it. -/
inductive IsFraction : List Char → Prop
  | point {digits : List Char} (run : IsDigits digits) : IsFraction ('.' :: digits)

/-- A letter with digits behind it, and possibly a sign between them. -/
inductive IsExponent : List Char → Prop
  | letter {c : Char} {sign digits : List Char} (letter : c = 'e' ∨ c = 'E')
      (isSign : IsSign sign) (run : IsDigits digits) : IsExponent (c :: (sign ++ digits))

/-- A numeral by its parts. -/
structure Numeral where
  negative : Bool
  whole : List Char
  fraction : List Char
  exponent : List Char
  isDigits_whole : IsDigits whole
  /-- Only a lone nought comes first. -/
  eq_of_leading : whole.head? = some '0' → whole = ['0']
  isFraction : fraction = [] ∨ IsFraction fraction
  isExponent : exponent = [] ∨ IsExponent exponent

/-- Texts that do not continue a numeral in front of them. -/
structure Ends (rest : List Char) : Prop where
  digit : ∀ c ∈ rest.head?, c.isDigit = false
  fraction : ∀ span, IsFraction span → ¬span <+: rest
  exponent : ∀ span, IsExponent span → ¬span <+: rest

namespace Numeral

variable (numeral : Numeral)

/-- A numeral without its sign. -/
def unsigned : List Char :=
  numeral.whole ++ (numeral.fraction ++ numeral.exponent)

/-- The text of a numeral. -/
def text : List Char :=
  withSign numeral.negative numeral.unsigned

/-- Whether a numeral is an integer with too many digits. -/
def IsLong : Prop :=
  numeral.fraction = [] ∧ numeral.exponent = [] ∧ maxDigits < numeral.whole.length

instance : Decidable numeral.IsLong :=
  inferInstanceAs (Decidable (_ ∧ _ ∧ _))

end Numeral

theorem IsFraction.head? {fraction : List Char} (isFraction : IsFraction fraction) :
    ∀ c ∈ fraction.head?, c = '.' := by
  cases isFraction
  simp

theorem IsExponent.head? {exponent : List Char} (isExponent : IsExponent exponent) :
    ∀ c ∈ exponent.head?, c = 'e' ∨ c = 'E' := by
  cases isExponent with
  | letter letter _ _ => simpa using letter

/-! ## Runs of digits -/

namespace IsDigits

variable {digits : List Char}

theorem ne_nil (run : IsDigits digits) : digits ≠ [] :=
  run.1

theorem isEmpty (run : IsDigits digits) : digits.isEmpty = false :=
  List.isEmpty_eq_false_iff.mpr run.1

theorem exists_eq_cons (run : IsDigits digits) :
    ∃ c others, digits = c :: others ∧ c.isDigit = true := by
  cases digits with
  | nil => exact absurd rfl run.1
  | cons c others => exact ⟨c, others, rfl, run.2 c List.mem_cons_self⟩

/-- A run is taken as a whole in front of anything but a digit. -/
theorem takeWhile_append {rest : List Char} (run : IsDigits digits)
    (stops : ∀ c ∈ rest.head?, c.isDigit = false) :
    (digits ++ rest).takeWhile Char.isDigit = digits :=
  (takeWhile_append_of_all run.2 stops).1

theorem takeWhile_append_ne_nil (run : IsDigits digits) (rest : List Char) :
    (digits ++ rest).takeWhile Char.isDigit ≠ [] := by
  obtain ⟨c, others, rfl, digit⟩ := run.exists_eq_cons
  simp [digit]

/-- Digits of ASCII are a run of digits of any script. -/
theorem isRun (run : IsDigits digits) : IsRun digits :=
  isRun_of_isDigit run.1 run.2

theorem of_takeWhile {text : List Char} (nonempty : text.takeWhile Char.isDigit ≠ []) :
    IsDigits (text.takeWhile Char.isDigit) :=
  ⟨nonempty, fun _ => List.mem_takeWhile_imp⟩

end IsDigits

/-! ## Optional parts -/

/-- What is found of a kind of parts at the beginning of a text. -/
inductive Finds (kind : List Char → Prop) (text : List Char) : List Char → Prop
  | nothing (none : ∀ span, kind span → ¬span <+: text) : Finds kind text []
  | part {span : List Char} (own : kind span) (front : span <+: text) : Finds kind text span

namespace Finds

variable {kind : List Char → Prop} {text span : List Char}

theorem isPrefix (finds : Finds kind text span) : span <+: text := by
  cases finds with
  | nothing _ => exact List.nil_prefix
  | part _ front => exact front

theorem eq_nil_or (finds : Finds kind text span) : span = [] ∨ kind span := by
  cases finds with
  | nothing _ => exact .inl rfl
  | part own _ => exact .inr own

theorem eq_nil (finds : Finds kind text span) (none : ∀ span, kind span → ¬span <+: text) :
    span = [] := by
  cases finds with
  | nothing _ => rfl
  | part own front => exact absurd front (none span own)

theorem none_of_nil (finds : Finds kind text []) (proper : ¬kind []) :
    ∀ span, kind span → ¬span <+: text := by
  cases finds with
  | nothing none => exact none
  | part own _ => exact absurd own proper

end Finds

/-! ## Fractions -/

/-- The fraction that a text begins with, if there is one. -/
def fractionSpan (text : List Char) : List Char :=
  if (fractionDigits text).isEmpty then [] else '.' :: fractionDigits text

theorem fractionSpan_append {fraction rest : List Char} (isFraction : IsFraction fraction)
    (stops : ∀ c ∈ rest.head?, c.isDigit = false) : fractionSpan (fraction ++ rest) = fraction := by
  cases isFraction with
  | point run =>
      rw [fractionSpan, List.cons_append, fractionDigits, run.takeWhile_append stops, run.isEmpty]
      rfl

/-- The reader finds a fraction if there is one, as long as it can be. -/
theorem finds_fractionSpan (text : List Char) : Finds IsFraction text (fractionSpan text) := by
  by_cases none : fractionDigits text = []
  · rw [fractionSpan, none]
    refine .nothing ?_
    rintro _ ⟨run⟩ ⟨rest, rfl⟩
    exact run.takeWhile_append_ne_nil rest none
  · rw [fractionSpan, List.isEmpty_eq_false_iff.mpr none, if_neg Bool.false_ne_true]
    unfold fractionDigits at none ⊢
    split at none
    · exact .part (.point (.of_takeWhile none))
        (List.cons_prefix_cons.mpr ⟨rfl, List.takeWhile_prefix _⟩)
    · contradiction

/-! ## Exponents -/

/-- The reader finds the sign of an exponent. -/
theorem exponentSign_append {sign digits : List Char} (isSign : IsSign sign)
    (run : IsDigits digits) (rest : List Char) :
    exponentSign (sign ++ (digits ++ rest)) = sign := by
  rcases isSign with rfl | rfl | rfl
  · obtain ⟨c, others, rfl, digit⟩ := run.exists_eq_cons
    unfold exponentSign
    split
    · rename_i same
      rw [(List.cons.inj same).1] at digit
      contradiction
    · rename_i same
      rw [(List.cons.inj same).1] at digit
      contradiction
    · rfl
  · rfl
  · rfl

theorem exponentSign_cases (text : List Char) :
    IsSign (exponentSign text) ∧
      exponentSign text ++ text.drop (exponentSign text).length = text := by
  unfold exponentSign
  split <;> simp [IsSign]

theorem exponentSpan_letter {c : Char} (letter : c = 'e' ∨ c = 'E') {sign digits : List Char}
    (isSign : IsSign sign) (run : IsDigits digits) (rest : List Char) :
    exponentSpan (c :: (sign ++ digits) ++ rest) =
      c :: (sign ++ (digits ++ rest).takeWhile Char.isDigit) := by
  have isLetter : (c == 'e' || c == 'E') = true := by
    rwa [Bool.or_eq_true, beq_iff_eq, beq_iff_eq]
  have nonempty := List.isEmpty_eq_false_iff.mpr (run.takeWhile_append_ne_nil rest)
  rw [List.cons_append, List.append_assoc, exponentSpan, if_pos isLetter,
    exponentSign_append isSign run rest]
  simp only [List.drop_left]
  rw [nonempty, if_neg Bool.false_ne_true, List.cons_append]

theorem exponentSpan_append {exponent rest : List Char} (isExponent : IsExponent exponent)
    (stops : ∀ c ∈ rest.head?, c.isDigit = false) :
    exponentSpan (exponent ++ rest) = exponent := by
  cases isExponent with
  | letter letter isSign run =>
      rw [exponentSpan_letter letter isSign run, run.takeWhile_append stops]

/-- The reader finds an exponent if there is one, as long as it can be. -/
theorem finds_exponentSpan (text : List Char) : Finds IsExponent text (exponentSpan text) := by
  by_cases none : exponentSpan text = []
  · rw [none]
    refine .nothing ?_
    rintro _ ⟨letter, isSign, run⟩ ⟨rest, rfl⟩
    rw [exponentSpan_letter letter isSign run] at none
    contradiction
  · cases text with
    | nil => contradiction
    | cons c text =>
        obtain ⟨isSign, whole⟩ := exponentSign_cases text
        rw [exponentSpan] at none ⊢
        by_cases isLetter : (c == 'e' || c == 'E') = true
        · rw [if_pos isLetter] at none ⊢
          dsimp only at none ⊢
          split at none
          · contradiction
          · rename_i digits
            have run := IsDigits.of_takeWhile fun empty => digits (List.isEmpty_iff.mpr empty)
            rw [Bool.or_eq_true, beq_iff_eq, beq_iff_eq] at isLetter
            rw [if_neg digits]
            refine .part (.letter isLetter isSign run) ?_
            rw [List.cons_append, List.cons_prefix_cons]
            have behind := (List.prefix_append_right_inj (exponentSign text)).mpr
              (List.takeWhile_prefix (l := text.drop (exponentSign text).length) Char.isDigit)
            rw [whole] at behind
            exact ⟨rfl, behind⟩
        · rw [if_neg isLetter] at none
          contradiction

/-! ## Whole parts -/

theorem wholeDigits_of_head?_ne {text : List Char} (other : text.head? ≠ some '0') :
    wholeDigits text = text.takeWhile Char.isDigit := by
  unfold wholeDigits
  split
  · exact absurd rfl other
  · rfl

theorem wholeDigits_append {whole rest : List Char} (run : IsDigits whole)
    (leading : whole.head? = some '0' → whole = ['0'])
    (stops : ∀ c ∈ rest.head?, c.isDigit = false) : wholeDigits (whole ++ rest) = whole := by
  by_cases nought : whole.head? = some '0'
  · rw [leading nought]
    rfl
  · have same : (whole ++ rest).head? = whole.head? := List.head?_append_of_ne_nil _ run.ne_nil
    rw [wholeDigits_of_head?_ne (same ▸ nought), run.takeWhile_append stops]

/-- The reader finds digits if there are any; behind others than a lone nought is no digit. -/
theorem wholeDigits_cases {text : List Char} (nonempty : wholeDigits text ≠ []) :
    IsDigits (wholeDigits text) ∧
      ((wholeDigits text).head? = some '0' → wholeDigits text = ['0']) ∧
      ∃ rest, text = wholeDigits text ++ rest ∧
        (wholeDigits text = ['0'] ∨ ∀ c ∈ rest.head?, c.isDigit = false) := by
  by_cases nought : text.head? = some '0'
  · obtain ⟨rest, rfl⟩ : ∃ rest, text = '0' :: rest := by
      cases text with
      | nil => contradiction
      | cons c rest => exact ⟨rest, by rw [Option.some.inj nought]⟩
    have whole : wholeDigits ('0' :: rest) = ['0'] := rfl
    rw [whole]
    exact ⟨by decide, fun _ => rfl, rest, rfl, .inl rfl⟩
  · rw [wholeDigits_of_head?_ne nought] at nonempty ⊢
    have whole : text.takeWhile Char.isDigit ++ text.dropWhile Char.isDigit = text :=
      List.takeWhile_append_dropWhile
    refine ⟨.of_takeWhile nonempty, fun leading => ?_, _, whole.symm, .inr head?_dropWhile⟩
    rw [← whole, List.head?_append_of_ne_nil _ nonempty] at nought
    contradiction

/-! ## Numbers -/

namespace Numeral

variable (numeral : Numeral)

/-- What the reader makes of a numeral that it has found, with what follows. -/
def reading (rest : List Char) : Except ReadError (Document × List Char) :=
  if numeral.fraction.isEmpty && numeral.exponent.isEmpty then
    match readInteger numeral.text with
    | .ok n => .ok (.int n, rest)
    | .error error => .error (.number error)
  else
    match Binary64.read? numeral.text with
    | some x => .ok (.float x, rest)
    | none => .error .malformed

theorem exists_unsigned_eq_cons : ∃ c rest, numeral.unsigned = c :: rest ∧ c.isDigit = true := by
  obtain ⟨c, others, whole, digit⟩ := numeral.isDigits_whole.exists_eq_cons
  exact ⟨c, others ++ (numeral.fraction ++ numeral.exponent), by rw [unsigned, whole]; rfl, digit⟩

/-- What the reader makes of a text is told by the spans that it finds. -/
theorem readNumber_of_spans {rest : List Char}
    (whole : wholeDigits (numeral.unsigned ++ rest) = numeral.whole)
    (fraction : fractionSpan (numeral.fraction ++ (numeral.exponent ++ rest)) = numeral.fraction)
    (exponent : exponentSpan (numeral.exponent ++ rest) = numeral.exponent) :
    readNumber (numeral.text ++ rest) = numeral.reading rest := by
  have sign : (if (numeral.text ++ rest).head? == some '-' then ['-'] else []) =
      withSign numeral.negative [] := by
    obtain ⟨c, others, own, digit⟩ := numeral.exists_unsigned_eq_cons
    have other : c ≠ '-' := by
      rintro rfl
      contradiction
    rw [text, own]
    cases numeral.negative <;> simp [withSign, other]
  have behindSign : (numeral.text ++ rest).drop (withSign numeral.negative []).length =
      numeral.unsigned ++ rest := by
    rw [text]
    cases numeral.negative <;> rfl
  have behindWhole : (numeral.text ++ rest).drop
      ((withSign numeral.negative []).length + numeral.whole.length) =
        numeral.fraction ++ (numeral.exponent ++ rest) := by
    rw [← List.drop_drop, behindSign, unsigned, List.append_assoc, List.drop_left,
      List.append_assoc]
  have together : withSign numeral.negative [] ++ numeral.whole ++ numeral.fraction ++
      numeral.exponent = numeral.text := by
    rw [text, unsigned]
    cases numeral.negative <;> simp [withSign]
  unfold readNumber
  dsimp only
  rw [sign, behindSign, whole, numeral.isDigits_whole.isEmpty, if_neg Bool.false_ne_true,
    behindWhole]
  rw [fractionSpan] at fraction
  rw [fraction, List.drop_left, exponent, together, List.drop_left]
  rfl

theorem fraction_head? : ∀ c ∈ numeral.fraction.head?, c = '.' := by
  rcases numeral.isFraction with none | isFraction
  · simp [none]
  · exact isFraction.head?

theorem exponent_head? : ∀ c ∈ numeral.exponent.head?, c = 'e' ∨ c = 'E' := by
  rcases numeral.isExponent with none | isExponent
  · simp [none]
  · exact isExponent.head?

theorem isDigit_head?_fraction : ∀ c ∈ numeral.fraction.head?, c.isDigit = false := by
  intro c first
  rw [numeral.fraction_head? c first]
  decide

theorem isDigit_head?_exponent : ∀ c ∈ numeral.exponent.head?, c.isDigit = false := by
  intro c first
  rcases numeral.exponent_head? c first with rfl | rfl <;> decide

/-- An exponent begins no fraction. -/
theorem not_isFraction_exponent_append {rest : List Char} (ends : Ends rest) :
    ∀ span, IsFraction span → ¬span <+: numeral.exponent ++ rest := by
  rcases numeral.isExponent with none | isExponent
  · rw [none]
    exact ends.fraction
  · rintro _ ⟨_⟩ ⟨more, whole⟩
    have point : (numeral.exponent ++ rest).head? = some '.' := by
      rw [← whole]
      rfl
    have nonempty : numeral.exponent ≠ [] := by
      intro none
      rw [none] at isExponent
      cases isExponent
    rw [List.head?_append_of_ne_nil _ nonempty] at point
    exact absurd (isExponent.head? '.' point) (by decide)

/-- A numeral is found in front of a text that does not continue it. -/
theorem readNumber_text_append {rest : List Char} (ends : Ends rest) :
    readNumber (numeral.text ++ rest) = numeral.reading rest := by
  have behind := forall_head?_append numeral.isDigit_head?_exponent ends.digit
  apply numeral.readNumber_of_spans
  · rw [unsigned, List.append_assoc, List.append_assoc]
    exact wholeDigits_append numeral.isDigits_whole numeral.eq_of_leading
      (forall_head?_append numeral.isDigit_head?_fraction behind)
  · rcases numeral.isFraction with none | isFraction
    · rw [none]
      exact (finds_fractionSpan _).eq_nil (numeral.not_isFraction_exponent_append ends)
    · exact fractionSpan_append isFraction behind
  · rcases numeral.isExponent with none | isExponent
    · rw [none]
      exact (finds_exponentSpan rest).eq_nil ends.exponent
    · exact exponentSpan_append isExponent ends.digit

/-- A text has a sign in front or has not. -/
theorem exists_withSign (text : List Char) :
    ∃ negative unsigned, text = withSign negative unsigned ∧
      (if text.head? == some '-' then ['-'] else []) = withSign negative [] ∧
      text.drop (withSign negative []).length = unsigned := by
  by_cases minus : text.head? = some '-'
  · cases text with
    | nil => contradiction
    | cons c text =>
        obtain rfl := Option.some.inj minus
        exact ⟨true, text, rfl, rfl, rfl⟩
  · exact ⟨false, text, rfl, by rw [beq_eq_false_iff_ne.mpr minus]; rfl, rfl⟩

/-- A number that can be read begins with a numeral, and an integer takes all its digits. -/
theorem exists_numeral {text : List Char} (some : readNumber text ≠ .error .malformed) :
    ∃ (numeral : Numeral) (rest : List Char), text = numeral.text ++ rest ∧
      readNumber text = numeral.reading rest ∧ (numeral.IsLong → Ends rest) := by
  obtain ⟨negative, unsigned, begins, sign, behindSign⟩ := exists_withSign text
  have nonempty : wholeDigits unsigned ≠ [] := by
    intro none
    apply some
    unfold readNumber
    dsimp only
    rw [sign, behindSign, none]
    rfl
  obtain ⟨run, leading, behind, whole, stops⟩ := wholeDigits_cases nonempty
  obtain ⟨left, fraction⟩ := (finds_fractionSpan behind).isPrefix
  obtain ⟨rest, exponent⟩ := (finds_exponentSpan left).isPrefix
  let numeral : Numeral :=
    { negative, whole := wholeDigits unsigned, fraction := fractionSpan behind
      exponent := exponentSpan left, isDigits_whole := run, eq_of_leading := leading
      isFraction := (finds_fractionSpan behind).eq_nil_or
      isExponent := (finds_exponentSpan left).eq_nil_or }
  have unsignedParts : numeral.unsigned ++ rest = unsigned := by
    change wholeDigits unsigned ++ (fractionSpan behind ++ exponentSpan left) ++ rest = _
    rw [List.append_assoc, List.append_assoc, exponent, fraction, ← whole]
  have parts : text = numeral.text ++ rest := by
    rw [begins, ← unsignedParts, Numeral.text]
    cases negative <;> rfl
  refine ⟨numeral, rest, parts, ?_, ?_⟩
  · rw [parts]
    apply numeral.readNumber_of_spans
    · rw [unsignedParts]
    · change fractionSpan (fractionSpan behind ++ (exponentSpan left ++ rest)) = _
      rw [exponent, fraction]
    · change exponentSpan (exponentSpan left ++ rest) = _
      rw [exponent]
  · rintro ⟨noFraction, noExponent, long⟩
    change fractionSpan behind = [] at noFraction
    change exponentSpan left = [] at noExponent
    rw [noFraction, List.nil_append] at fraction
    rw [noExponent, List.nil_append] at exponent
    subst fraction exponent
    have digits : wholeDigits unsigned ≠ ['0'] := by
      intro nought
      change maxDigits < (wholeDigits unsigned).length at long
      rw [nought] at long
      exact absurd long (by decide)
    have fractionNone := finds_fractionSpan rest
    have exponentNone := finds_exponentSpan rest
    rw [noFraction] at fractionNone
    rw [noExponent] at exponentNone
    exact ⟨stops.resolve_left digits, fractionNone.none_of_nil (by rintro ⟨⟩),
      exponentNone.none_of_nil (by rintro ⟨⟩)⟩

/-! ## Values of numerals -/

/-- What the reader makes of an integer, with what follows. -/
theorem reading_of_integer {rest : List Char} (noFraction : numeral.fraction = [])
    (noExponent : numeral.exponent = []) :
    numeral.reading rest =
      if maxDigits < numeral.whole.length then
        .error (.number (.tooManyDigits numeral.whole.length))
      else .ok (.int (signedRun (withSign numeral.negative []) numeral.whole), rest) := by
  have decimal : ∀ c ∈ numeral.whole, isDecimalDigit c = true :=
    fun c member => isDecimalDigit_of_isDigit (numeral.isDigits_whole.2 c member)
  have isRun := numeral.isDigits_whole.isRun
  have whole : numeral.text = withSign numeral.negative [] ++ numeral.whole := by
    rw [text, unsigned, noFraction, noExponent, List.append_nil, List.append_nil, withSign_append]
  have count : (runDigits numeral.whole).length = numeral.whole.length :=
    length_filterMap_digitValue? decimal
  rw [reading, noFraction, noExponent, whole, List.isEmpty_nil, Bool.and_self, if_pos rfl,
    readInteger_append (isSign_withSign _) isRun, count]
  by_cases long : maxDigits < numeral.whole.length
  · rw [if_pos long, if_pos long]
  · rw [if_neg long, if_neg long]

theorem reading_of_isLong (long : numeral.IsLong) (rest : List Char) :
    numeral.reading rest = .error (.number (.tooManyDigits numeral.whole.length)) := by
  obtain ⟨noFraction, noExponent, long⟩ := long
  rw [numeral.reading_of_integer noFraction noExponent, if_pos long]

theorem exists_isFractionPart : ∃ places, IsFractionPart numeral.fraction places := by
  rcases numeral.isFraction with none | isFraction
  · rw [none]
    exact ⟨_, .none⟩
  · generalize numeral.fraction = fraction at isFraction ⊢
    cases isFraction with
    | point run => exact ⟨_, .point (.inr run.isRun)⟩

theorem exists_isExponentPart : ∃ power, IsExponentPart numeral.exponent power := by
  rcases numeral.isExponent with none | isExponent
  · rw [none]
    exact ⟨_, .none⟩
  · generalize numeral.exponent = exponent at isExponent ⊢
    cases isExponent with
    | letter letter isSign run => exact ⟨_, .letter letter isSign run.isRun⟩

/-- Every numeral has a value of double precision. -/
theorem exists_read? : ∃ x, Binary64.read? numeral.text = some x := by
  obtain ⟨places, isFraction⟩ := numeral.exists_isFractionPart
  obtain ⟨power, isExponent⟩ := numeral.exists_isExponentPart
  have isDecimal := IsDecimal.numeral (List.forall_mem_nil _) (List.forall_mem_nil _)
    (isSign_withSign numeral.negative) (.inr numeral.isDigits_whole.isRun) isFraction
    (List.append_ne_nil_of_left_ne_nil numeral.isDigits_whole.ne_nil _) isExponent
  rw [List.nil_append, List.append_nil, withSign_append] at isDecimal
  exact ⟨_, isDecimal.read?_eq⟩

/-- Every numeral that is not too long is read. -/
theorem exists_reading (short : ¬numeral.IsLong) (rest : List Char) :
    ∃ document, numeral.reading rest = .ok (document, rest) := by
  by_cases integer : numeral.fraction = [] ∧ numeral.exponent = []
  · obtain ⟨noFraction, noExponent⟩ := integer
    have few : ¬maxDigits < numeral.whole.length :=
      fun long => short ⟨noFraction, noExponent, long⟩
    exact ⟨_, by rw [numeral.reading_of_integer noFraction noExponent, if_neg few]⟩
  · obtain ⟨x, read⟩ := numeral.exists_read?
    have broken : (numeral.fraction.isEmpty && numeral.exponent.isEmpty) = false := by
      simpa [Bool.and_eq_false_iff] using integer
    exact ⟨.float x, by rw [reading, broken, read]; rfl⟩

end Numeral

end RideQuery.Json
