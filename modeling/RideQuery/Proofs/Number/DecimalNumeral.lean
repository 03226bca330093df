import RideQuery.Proofs.Number.DecimalReading
import RideQuery.Proofs.Number.Literal
import RideQuery.Proofs.Number.Shortest

/-!
# Decimal numerals

A decimal numeral has a sign, digits, possibly a point with digits behind it, and possibly an
exponent.  It is read as the number of double precision that its value becomes.  Integers are
written as numerals, but no text without digits is one.
-/

namespace RideQuery.Number

open RideQuery.Text

/-- A decimal numeral by its parts. -/
structure DecimalNumeral where
  negative : Bool
  /-- The digits in front of the point. -/
  whole : List Char
  /-- The digits behind the point, which is left out if there are none. -/
  places : List Char
  exponent : Option ℤ
  whole_ne_nil : whole ≠ []
  isDigit_whole : ∀ c ∈ whole, c.isDigit = true
  isDigit_places : ∀ c ∈ places, c.isDigit = true

namespace DecimalNumeral

variable (numeral : DecimalNumeral)

/-- The point and the digits behind it. -/
def fraction : List Char :=
  if numeral.places = [] then [] else '.' :: numeral.places

/-- The exponent as it is written. -/
def exponentPart : List Char :=
  match numeral.exponent with
  | some exponent => 'e' :: exponentChars exponent
  | none => []

/-- A numeral without its sign. -/
def unsigned : List Char :=
  numeral.whole ++ (numeral.fraction ++ numeral.exponentPart)

/-- The text of a numeral. -/
def text : List Char :=
  withSign numeral.negative numeral.unsigned

/-- The number that the digits of a numeral are, its point left out. -/
def digits : ℕ :=
  asciiValue (numeral.whole ++ numeral.places)

/-- The power of ten that the digits are multiplied with. -/
def power : ℤ :=
  numeral.exponent.getD 0 - numeral.places.length

/-- The value of a numeral without its sign. -/
def magnitude : ℚ :=
  numeral.digits * 10 ^ numeral.power

/-- The value of a numeral. -/
def value : ℚ :=
  if numeral.negative then -numeral.magnitude else numeral.magnitude

end DecimalNumeral

/-! ## Reading -/

theorem isRun_of_isDigit {text : List Char} (nonempty : text ≠ [])
    (ascii : ∀ c ∈ text, c.isDigit = true) : IsRun text :=
  .of_isDecimalDigit nonempty fun c member => isDecimalDigit_of_isDigit (ascii c member)

theorem isExponentPart_exponentChars (exponent : ℤ) :
    IsExponentPart ('e' :: exponentChars exponent) exponent := by
  have written : ∃ digits, exponentChars exponent = (if exponent < 0 then '-' else '+') :: digits ∧
      digits ≠ [] ∧ (∀ c ∈ digits, c.isDigit = true) ∧ asciiValue digits = exponent.natAbs := by
    have digits : ∀ c ∈ digitChars exponent.natAbs, c.isDigit = true :=
      fun c => isDigit_of_mem_digitChars
    refine ⟨_, rfl, ?_⟩
    split
    · refine ⟨List.cons_ne_nil _ _, List.forall_mem_cons.mpr ⟨by decide, digits⟩, ?_⟩
      rw [asciiValue_zero_cons, asciiValue_digitChars]
    · exact ⟨Nat.toDigits_ne_nil, digits, asciiValue_digitChars _⟩
  obtain ⟨digits, written, nonempty, ascii, value⟩ := written
  have isRun := isRun_of_isDigit nonempty ascii
  have placed : placeValue digits = exponent.natAbs := by
    rw [placeValue_of_isDigit ascii, value]
  rw [written]
  by_cases negative : exponent < 0
  · have part : IsExponentPart ('e' :: (['-'] ++ digits)) _ :=
      .letter (.inl rfl) (.inr (.inr rfl)) isRun
    have own : Binary64.signed true (placeValue digits) = exponent := by
      rw [placed, Binary64.signed, if_pos rfl]
      omega
    rw [if_pos negative]
    exact own ▸ part
  · have part : IsExponentPart ('e' :: (['+'] ++ digits)) _ :=
      .letter (.inl rfl) (.inr (.inl rfl)) isRun
    have own : Binary64.signed false (placeValue digits) = exponent := by
      rw [placed, Binary64.signed, if_neg Bool.false_ne_true]
      omega
    rw [if_neg negative]
    exact own ▸ part

theorem isSign_withSign (negative : Bool) : IsSign (withSign negative []) := by
  cases negative with
  | false => exact .inl rfl
  | true => exact .inr (.inr rfl)

theorem withSign_append (negative : Bool) (text : List Char) :
    withSign negative [] ++ text = withSign negative text := by
  cases negative <;> rfl

theorem withSign_beq (negative : Bool) : (withSign negative [] == ['-']) = negative := by
  cases negative <;> rfl

namespace DecimalNumeral

variable (numeral : DecimalNumeral)

theorem isFractionPart : IsFractionPart numeral.fraction numeral.places := by
  unfold fraction
  split
  · rename_i nothing
    rw [nothing]
    exact .none
  · rename_i some
    exact .point (.inr (isRun_of_isDigit some numeral.isDigit_places))

theorem isExponentPart : IsExponentPart numeral.exponentPart (numeral.exponent.getD 0) := by
  unfold exponentPart
  cases numeral.exponent with
  | none => exact .none
  | some exponent => exact isExponentPart_exponentChars exponent

theorem isDecimal_text :
    IsDecimal numeral.text numeral.negative numeral.digits numeral.power := by
  have ascii : ∀ c ∈ numeral.whole ++ numeral.places, c.isDigit = true :=
    List.forall_mem_append.mpr ⟨numeral.isDigit_whole, numeral.isDigit_places⟩
  have count : (runDigits numeral.places).length = numeral.places.length :=
    length_filterMap_digitValue? fun c member =>
      isDecimalDigit_of_isDigit (numeral.isDigit_places c member)
  have isDecimal := IsDecimal.numeral (List.forall_mem_nil _) (List.forall_mem_nil _)
    (isSign_withSign numeral.negative)
    (.inr (isRun_of_isDigit numeral.whole_ne_nil numeral.isDigit_whole)) numeral.isFractionPart
    (List.append_ne_nil_of_left_ne_nil numeral.whole_ne_nil _) numeral.isExponentPart
  rw [List.nil_append, List.append_nil, withSign_append, withSign_beq,
    placeValue_of_isDigit ascii, count] at isDecimal
  exact isDecimal

/-- A numeral is read as the number of double precision that its value becomes. -/
theorem read?_text :
    Binary64.read? numeral.text =
      some (Binary64.ofDecimal numeral.negative numeral.digits numeral.power) :=
  numeral.isDecimal_text.read?_eq

/-- A numeral without its sign begins with a digit. -/
theorem exists_unsigned_eq_cons : ∃ c rest, numeral.unsigned = c :: rest ∧ c.isDigit = true := by
  cases own : numeral.whole with
  | nil => exact absurd own numeral.whole_ne_nil
  | cons c whole =>
      refine ⟨c, whole ++ (numeral.fraction ++ numeral.exponentPart), ?_, ?_⟩
      · rw [unsigned, own, List.cons_append]
      · exact numeral.isDigit_whole c (own ▸ List.mem_cons_self)

/-- A text without digits is no numeral. -/
theorem text_ne {other : List Char} (none : ∀ c ∈ other, c.isDigit = false) :
    numeral.text ≠ other := by
  rintro rfl
  obtain ⟨c, rest, own, digit⟩ := numeral.exists_unsigned_eq_cons
  have member : c ∈ numeral.text := by
    unfold text withSign
    rw [own]
    split <;> simp
  rw [none c member] at digit
  contradiction

/-! ## Integers -/

/-- The numeral of an integer. -/
def ofInt (n : ℤ) : DecimalNumeral where
  negative := n < 0
  whole := digitChars n.natAbs
  places := []
  exponent := none
  whole_ne_nil := Nat.toDigits_ne_nil
  isDigit_whole _ := isDigit_of_mem_digitChars
  isDigit_places := by simp

theorem text_ofInt (n : ℤ) : (ofInt n).text = (integerText n).toList := by
  have unsigned : (ofInt n).unsigned = (Nat.repr n.natAbs).toList := by
    rw [Nat.toList_repr]
    exact List.append_nil _
  rw [text, unsigned, integerText, withSign, ofInt]
  dsimp only
  by_cases negative : n < 0
  · rw [if_pos (decide_eq_true negative), if_pos negative, String.toList_append]
    rfl
  · rw [if_neg (by simpa using negative), if_neg negative]

theorem value_ofInt (n : ℤ) : (ofInt n).value = n := by
  have magnitude : (ofInt n).magnitude = n.natAbs := by
    have digits : (ofInt n).digits = n.natAbs := by
      rw [digits, ofInt, List.append_nil, asciiValue_digitChars]
    have power : (ofInt n).power = 0 := rfl
    rw [DecimalNumeral.magnitude, digits, power, zpow_zero, mul_one]
  have sign : (ofInt n).negative = decide (n < 0) := rfl
  rw [value, magnitude, sign, ← Int.cast_natCast, ← Int.cast_neg]
  by_cases negative : n < 0
  · rw [if_pos (decide_eq_true negative)]
    congr 1
    omega
  · rw [if_neg (by simpa using negative)]
    congr 1
    omega

end DecimalNumeral

end RideQuery.Number
