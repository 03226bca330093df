import RideQuery.Proofs.Number.Integer

/-!
# Reading decimals

A decimal is written with digits of any script in front of a point, behind it, or without one.
There may be underscores between digits, a sign, an exponent, and blanks around it all.  It is
read as the number of double precision that its digits become with their power of ten.
-/

namespace RideQuery.Number

open RideQuery.Text

/-! ## Decimals -/

/-- The number that the digits of a text stand for, each by its place. -/
def placeValue (text : List Char) : ℕ :=
  Nat.ofDigits 10 (runDigits text).reverse

/-- Fractions with the digits behind their points.  There may be neither. -/
inductive IsFractionPart : List Char → List Char → Prop
  | none : IsFractionPart [] []
  | point {places : List Char} (isRun : places = [] ∨ IsRun places) :
      IsFractionPart ('.' :: places) places

/-- Exponents with the powers of ten that they stand for.  One that is left out is nought. -/
inductive IsExponentPart : List Char → ℤ → Prop
  | none : IsExponentPart [] 0
  | letter {c : Char} {sign run : List Char} (letter : c = 'e' ∨ c = 'E') (isSign : IsSign sign)
      (isRun : IsRun run) :
      IsExponentPart (c :: (sign ++ run)) (Binary64.signed (sign == ['-']) (placeValue run))

/-- Texts that stand for a decimal, with its sign, its digits and their power of ten. -/
inductive IsDecimal : List Char → Bool → ℕ → ℤ → Prop
  | numeral {front sign whole fraction places exponent back : List Char} {power : ℤ}
      (blankFront : ∀ c ∈ front, isNumeralBlank c = true)
      (blankBack : ∀ c ∈ back, isNumeralBlank c = true) (isSign : IsSign sign)
      (isWhole : whole = [] ∨ IsRun whole) (isFraction : IsFractionPart fraction places)
      (digits : whole ++ places ≠ []) (isExponent : IsExponentPart exponent power) :
      IsDecimal (front ++ (sign ++ (whole ++ (fraction ++ exponent)) ++ back)) (sign == ['-'])
        (placeValue (whole ++ places)) (power - (runDigits places).length)

theorem ofDigits_eq (digits : List ℕ) : ofDigits digits = Nat.ofDigits 10 digits.reverse := by
  induction digits using List.reverseRecOn with
  | nil => rfl
  | append_singleton digits digit inductionHypothesis =>
      rw [List.reverse_append, List.reverse_singleton, List.singleton_append, Nat.ofDigits_cons,
        ← inductionHypothesis, ofDigits, List.foldl_append, Nat.add_comm]
      rfl

/-- The place value of digits of ASCII. -/
theorem placeValue_of_isDigit {text : List Char} (ascii : ∀ c ∈ text, c.isDigit = true) :
    placeValue text = asciiValue text := by
  rw [placeValue, ← ofDigits_eq, runDigits, filterMap_digitValue? ascii]
  rfl

/-! ## Digits of ASCII -/

/-- The digit of ASCII with a value. -/
def asciiDigit (value : ℕ) : Char :=
  Char.ofNat (48 + value)

/-- The digits of a text, brought to ASCII. -/
def asciiRun (text : List Char) : List Char :=
  (runDigits text).map asciiDigit

theorem lt_ten_of_digitValue? {c : Char} {value : ℕ} (valued : digitValue? c = some value) :
    value < 10 := by
  unfold digitValue? at valued
  split at valued
  · split at valued
    · rename_i digit
      obtain rfl := Option.some.inj valued
      have bounds := toNat_bounds_of_isDigit digit
      omega
    · contradiction
  · obtain ⟨nought, found, rfl⟩ := Option.map_eq_some_iff.mp valued
    have within := List.find?_some found
    rw [Bool.and_eq_true, decide_eq_true_eq, decide_eq_true_eq] at within
    omega

theorem asciiDigit_facts {value : ℕ} (small : value < 10) :
    (asciiDigit value).isDigit = true ∧ (asciiDigit value).toNat - 48 = value := by
  revert value
  decide

theorem lt_ten_of_mem_runDigits {text : List Char} {value : ℕ} (member : value ∈ runDigits text) :
    value < 10 := by
  obtain ⟨c, _, valued⟩ := List.mem_filterMap.mp member
  exact lt_ten_of_digitValue? valued

theorem isDigit_of_mem_asciiRun {text : List Char} {c : Char} (member : c ∈ asciiRun text) :
    c.isDigit = true := by
  obtain ⟨value, inside, rfl⟩ := List.mem_map.mp member
  exact (asciiDigit_facts (lt_ten_of_mem_runDigits inside)).1

theorem asciiValue_asciiRun (text : List Char) : asciiValue (asciiRun text) = placeValue text := by
  have values : (asciiRun text).map (fun c => c.toNat - 48) = runDigits text := by
    rw [asciiRun, List.map_map]
    conv_rhs => rw [← List.map_id (runDigits text)]
    exact List.map_congr_left fun value inside =>
      (asciiDigit_facts (lt_ten_of_mem_runDigits inside)).2
  rw [asciiValue, values, ofDigits_eq, placeValue]

theorem asciiRun_append (text other : List Char) :
    asciiRun (text ++ other) = asciiRun text ++ asciiRun other := by
  rw [asciiRun, runDigits, List.filterMap_append, List.map_append]
  rfl

theorem length_asciiRun (text : List Char) : (asciiRun text).length = (runDigits text).length :=
  List.length_map _

theorem asciiRun_cons {c : Char} {value : ℕ} (valued : digitValue? c = some value)
    (rest : List Char) : asciiRun (c :: rest) = asciiDigit value :: asciiRun rest := by
  rw [asciiRun, runDigits, List.filterMap_cons_some valued]
  rfl

theorem asciiRun_ne_nil {run : List Char} (isRun : IsRun run) : asciiRun run ≠ [] := by
  obtain ⟨c, rest, rfl, digit⟩ := isRun.exists_eq_cons
  exact fun none => runDigits_ne_nil digit rest (List.map_eq_nil_iff.mp none)

/-! ## Plain texts -/

/-- Texts that become plain ones, whatever follows them. -/
def CleansTo (text plain : List Char) : Prop :=
  ∀ ⦃rest plainRest : List Char⦄,
    (∀ afterDigit, dropUnderscores afterDigit (toAsciiDigits rest) = some plainRest) →
    ∀ afterDigit,
      dropUnderscores afterDigit (toAsciiDigits (text ++ rest)) = some (plain ++ plainRest)

theorem toAsciiDigits_cons {c : Char} {value : ℕ} (valued : digitValue? c = some value)
    (rest : List Char) : toAsciiDigits (c :: rest) = asciiDigit value :: toAsciiDigits rest := by
  rw [toAsciiDigits, List.map_cons, valued]
  rfl

theorem dropUnderscores_cons {c : Char} (other : c ≠ '_') (afterDigit : Bool)
    (rest : List Char) :
    dropUnderscores afterDigit (c :: rest) =
      (dropUnderscores c.isDigit rest).map (c :: ·) := by
  rw [dropUnderscores]
  exact fun same => absurd same other

theorem ne_underscore_of_isDigit {c : Char} (digit : c.isDigit = true) : c ≠ '_' := by
  rintro rfl
  contradiction

namespace CleansTo

variable {text plain other plainOther : List Char}

theorem nil : CleansTo [] [] :=
  fun _ _ cleaned => cleaned

theorem append (first : CleansTo text plain) (second : CleansTo other plainOther) :
    CleansTo (text ++ other) (plain ++ plainOther) := by
  intro rest plainRest cleaned afterDigit
  rw [List.append_assoc, List.append_assoc]
  exact first (second cleaned) afterDigit

/-- A character that is neither a digit nor an underscore stays. -/
theorem cons {c : Char} (none : digitValue? c = none) (solid : c ≠ '_')
    (rest : CleansTo text plain) : CleansTo (c :: text) (c :: plain) := by
  intro more plainMore cleaned afterDigit
  have own : toAsciiDigits (c :: text ++ more) = c :: toAsciiDigits (text ++ more) := by
    rw [toAsciiDigits, List.cons_append, List.map_cons, none]
    rfl
  rw [own, dropUnderscores_cons solid, rest cleaned]
  rfl

theorem digit {c : Char} {value : ℕ} (valued : digitValue? c = some value)
    (rest : CleansTo text plain) : CleansTo (c :: text) (asciiDigit value :: plain) := by
  intro more plainMore cleaned afterDigit
  have ascii := (asciiDigit_facts (lt_ten_of_digitValue? valued)).1
  rw [List.cons_append, toAsciiDigits_cons valued,
    dropUnderscores_cons (ne_underscore_of_isDigit ascii), rest cleaned]
  rfl

/-- An underscore is dropped between a digit and a run. -/
theorem underscore {c : Char} {value : ℕ} (valued : digitValue? c = some value)
    (isRun : IsRun text) (rest : CleansTo text plain) :
    CleansTo (c :: '_' :: text) (asciiDigit value :: plain) := by
  intro more plainMore cleaned afterDigit
  have ascii := (asciiDigit_facts (lt_ten_of_digitValue? valued)).1
  have behind : dropUnderscores true (toAsciiDigits ('_' :: (text ++ more))) =
      dropUnderscores false (toAsciiDigits (text ++ more)) := by
    obtain ⟨d, others, rfl, next⟩ := isRun.exists_eq_cons
    obtain ⟨digit, valued⟩ := Option.isSome_iff_exists.mp next
    have begins : toAsciiDigits (d :: others ++ more) =
        asciiDigit digit :: toAsciiDigits (others ++ more) := toAsciiDigits_cons valued _
    have whole : toAsciiDigits ('_' :: (d :: others ++ more)) =
        '_' :: toAsciiDigits (d :: others ++ more) := rfl
    rw [whole, begins, dropUnderscores,
      (asciiDigit_facts (lt_ten_of_digitValue? valued)).1]
    rfl
  rw [List.cons_append, List.cons_append, toAsciiDigits_cons valued,
    dropUnderscores_cons (ne_underscore_of_isDigit ascii), ascii, behind, rest cleaned]
  rfl

theorem run (isRun : IsRun text) : CleansTo text (asciiRun text) := by
  induction isRun with
  | last own =>
      obtain ⟨value, valued⟩ := Option.isSome_iff_exists.mp own
      rw [asciiRun_cons valued]
      exact digit valued nil
  | digit own _ inductionHypothesis =>
      obtain ⟨value, valued⟩ := Option.isSome_iff_exists.mp own
      rw [asciiRun_cons valued]
      exact digit valued inductionHypothesis
  | underscore own isRun inductionHypothesis =>
      obtain ⟨value, valued⟩ := Option.isSome_iff_exists.mp own
      rw [asciiRun_cons valued]
      exact underscore valued isRun inductionHypothesis

theorem optional (isRun : text = [] ∨ IsRun text) : CleansTo text (asciiRun text) := by
  rcases isRun with rfl | isRun
  · exact nil
  · exact run isRun

theorem sign (isSign : IsSign text) : CleansTo text text := by
  rcases isSign with rfl | rfl | rfl
  · exact nil
  · exact cons rfl (by decide) nil
  · exact cons rfl (by decide) nil

theorem dropUnderscores_eq (cleans : CleansTo text plain) :
    dropUnderscores false (toAsciiDigits text) = some plain := by
  have nothing : ∀ afterDigit, dropUnderscores afterDigit (toAsciiDigits []) = some [] :=
    fun _ => rfl
  have cleaned := cleans nothing false
  rwa [List.append_nil, List.append_nil] at cleaned

end CleansTo

/-! ## Parts -/

theorem readExponent_letter {c : Char} {sign digits : List Char} (letter : c = 'e' ∨ c = 'E')
    (isSign : IsSign sign) (nonempty : digits ≠ []) (ascii : ∀ d ∈ digits, d.isDigit = true) :
    readExponent (c :: (sign ++ digits)) =
      some (Binary64.signed (sign == ['-']) (asciiValue digits)) := by
  have isLetter : (c == 'e' || c == 'E') = true := by
    rwa [Bool.or_eq_true, beq_iff_eq, beq_iff_eq]
  have signless : ∀ d ∈ digits.head?, d ≠ '+' ∧ d ≠ '-' := by
    intro d first
    have digit := ascii d (List.mem_of_head? first)
    constructor <;>
      · rintro rfl
        contradiction
  rw [readExponent, if_pos isLetter, dropSign_append isSign signless]
  dsimp only
  rw [List.isEmpty_eq_false_iff.mpr nonempty, List.all_eq_true.mpr ascii]
  rfl

/-- An exponent becomes a plain one with its power. -/
theorem IsExponentPart.exists_plain {exponent : List Char} {power : ℤ}
    (isExponent : IsExponentPart exponent power) :
    ∃ plain, CleansTo exponent plain ∧ readExponent plain = some power ∧
      ∀ c ∈ plain.head?, c = 'e' ∨ c = 'E' := by
  cases isExponent with
  | none => exact ⟨[], .nil, rfl, by simp⟩
  | @letter c sign run letter isSign isRun =>
      have solid : digitValue? c = .none ∧ c ≠ '_' := by
        rcases letter with rfl | rfl <;> decide
      refine ⟨c :: (sign ++ asciiRun run), ?_, ?_, ?_⟩
      · exact .cons solid.1 solid.2 (.append (.sign isSign) (.run isRun))
      · rw [readExponent_letter letter isSign (asciiRun_ne_nil isRun) fun _ =>
          isDigit_of_mem_asciiRun, asciiValue_asciiRun]
      · simpa using letter

/-- A fraction becomes a point with plain digits behind it. -/
theorem IsFractionPart.exists_plain {fraction places : List Char}
    (isFraction : IsFractionPart fraction places) :
    ∃ plain, CleansTo fraction plain ∧
      (plain = [] ∧ asciiRun places = [] ∨ plain = '.' :: asciiRun places) := by
  cases isFraction with
  | none => exact ⟨[], .nil, .inl ⟨rfl, rfl⟩⟩
  | point isRun => exact ⟨_, .cons rfl (by decide) (.optional isRun), .inr rfl⟩

theorem isDigit_eq_false_of_letter {c : Char} (letter : c = 'e' ∨ c = 'E') :
    c.isDigit = false := by
  rcases letter with rfl | rfl <;> decide

theorem readUnsigned_append {whole places fraction exponent : List Char} {power : ℤ}
    (ascii : ∀ c ∈ whole ++ places, c.isDigit = true) (digits : whole ++ places ≠ [])
    (point : fraction = [] ∧ places = [] ∨ fraction = '.' :: places)
    (letter : ∀ c ∈ exponent.head?, c = 'e' ∨ c = 'E')
    (read : readExponent exponent = some power) (negative : Bool) :
    readUnsigned negative (whole ++ (fraction ++ exponent)) =
      some (Binary64.ofDecimal negative (asciiValue (whole ++ places))
        (power - places.length)) := by
  obtain ⟨asciiWhole, asciiPlaces⟩ := List.forall_mem_append.mp ascii
  have stops : ∀ c ∈ exponent.head?, c.isDigit = false :=
    fun c first => isDigit_eq_false_of_letter (letter c first)
  have some : (whole.isEmpty && places.isEmpty) = false := by
    simpa [Bool.and_eq_false_iff] using digits
  rcases point with ⟨rfl, rfl⟩ | rfl
  · obtain ⟨front, behind⟩ := takeWhile_append_of_all asciiWhole stops
    rw [List.nil_append, readUnsigned]
    dsimp only
    rw [front, behind]
    split
    · exact absurd (letter '.' rfl) (by decide)
    · dsimp only
      rw [some, if_neg Bool.false_ne_true, read]
      rfl
  · have stopsPoint : ∀ c ∈ ('.' :: (places ++ exponent)).head?, c.isDigit = false := by
      simp
    obtain ⟨front, behind⟩ := takeWhile_append_of_all asciiWhole stopsPoint
    obtain ⟨behindPoint, left⟩ := takeWhile_append_of_all asciiPlaces stops
    rw [List.cons_append, readUnsigned]
    dsimp only
    rw [front, behind]
    change (if whole.isEmpty && ((places ++ exponent).takeWhile Char.isDigit).isEmpty then none
      else (readExponent ((places ++ exponent).dropWhile Char.isDigit)).map fun power =>
        Binary64.ofDecimal negative
          (asciiValue (whole ++ (places ++ exponent).takeWhile Char.isDigit))
          (power - ((places ++ exponent).takeWhile Char.isDigit).length)) = _
    rw [behindPoint, left, some, if_neg Bool.false_ne_true, read]
    rfl

/-! ## Whole texts -/

/-- A decimal begins with a digit or with its point. -/
theorem exists_head? {whole places fraction : List Char}
    (ascii : ∀ c ∈ whole ++ places, c.isDigit = true) (digits : whole ++ places ≠ [])
    (point : fraction = [] ∧ places = [] ∨ fraction = '.' :: places) (rest : List Char) :
    ∃ c ∈ (whole ++ (fraction ++ rest)).head?, c.isDigit = true ∨ c = '.' := by
  cases whole with
  | nil =>
      rcases point with ⟨_, rfl⟩ | rfl
      · exact absurd rfl digits
      · exact ⟨'.', rfl, .inr rfl⟩
  | cons c whole => exact ⟨c, rfl, .inl (ascii c List.mem_cons_self)⟩

/-- No name of a number begins like a decimal. -/
theorem map_toLower_ne {text : List Char}
    (begins : ∃ c ∈ text.head?, c.isDigit = true ∨ c = '.') {letter : Char}
    (other : letter.isDigit = false ∧ letter ≠ '.') (name : List Char) :
    (text.map Char.toLower == letter :: name) = false := by
  obtain ⟨c, first, digit⟩ := begins
  have same : c.toLower = c := by
    rcases digit with digit | rfl
    · have all : ∀ code ∈ List.range' 48 10, (Char.ofNat code).toLower = Char.ofNat code := by
        decide
      have bounds := toNat_bounds_of_isDigit digit
      have lower := all c.toNat (List.mem_range'_1.mpr (by omega))
      rwa [Char.ofNat_toNat] at lower
    · rfl
  obtain ⟨rest, rfl⟩ := List.head?_eq_some_iff.mp first
  rw [List.map_cons, same, beq_eq_false_iff_ne]
  rintro equal
  obtain rfl := (List.cons.inj equal).1
  rcases digit with digit | rfl
  · rw [other.1] at digit
    contradiction
  · exact other.2 rfl

/-- What becomes of a text that begins like a decimal once it is plain. -/
theorem read?_of_plain {text sign unsigned : List Char}
    (cleaned : dropUnderscores false (toAsciiDigits (stripWhile isNumeralBlank text)) =
      some (sign ++ unsigned))
    (isSign : IsSign sign) (begins : ∃ c ∈ unsigned.head?, c.isDigit = true ∨ c = '.') :
    Binary64.read? text = readUnsigned (sign == ['-']) unsigned := by
  have signless : ∀ c ∈ unsigned.head?, c ≠ '+' ∧ c ≠ '-' := by
    intro c first
    obtain ⟨d, head, digit⟩ := begins
    obtain rfl := Option.some.inj (head.symm.trans first)
    constructor <;>
      · rintro rfl
        rcases digit with digit | point <;> contradiction
  have inf := map_toLower_ne begins (by decide : 'i'.isDigit = false ∧ 'i' ≠ '.')
  have nan := map_toLower_ne begins (by decide : 'n'.isDigit = false ∧ 'n' ≠ '.')
  have names : (unsigned.map Char.toLower == "inf".toList) = false ∧
      (unsigned.map Char.toLower == "infinity".toList) = false ∧
      (unsigned.map Char.toLower == "nan".toList) = false :=
    ⟨inf "nf".toList, inf "nfinity".toList, nan "an".toList⟩
  rw [Binary64.read?, cleaned, Option.bind_eq_bind, Option.bind_some,
    dropSign_append isSign signless]
  dsimp only
  rw [names.1, names.2.1, names.2.2]
  rfl

theorem isBlank_of_optional {text : List Char} (isRun : text = [] ∨ IsRun text) :
    ∀ c ∈ text, isBlank c = false := by
  rcases isRun with rfl | isRun
  · exact List.forall_mem_nil _
  · exact isBlank_of_isRun isRun

theorem IsFractionPart.optional {fraction places : List Char}
    (isFraction : IsFractionPart fraction places) : places = [] ∨ IsRun places := by
  cases isFraction with
  | none => exact .inl rfl
  | point isRun => exact isRun

theorem isBlank_of_isFractionPart {fraction places : List Char}
    (isFraction : IsFractionPart fraction places) : ∀ c ∈ fraction, isBlank c = false := by
  cases isFraction with
  | none => exact List.forall_mem_nil _
  | point isRun => exact List.forall_mem_cons.mpr ⟨by decide, isBlank_of_optional isRun⟩

theorem isBlank_of_isExponentPart {exponent : List Char} {power : ℤ}
    (isExponent : IsExponentPart exponent power) : ∀ c ∈ exponent, isBlank c = false := by
  cases isExponent with
  | none => exact List.forall_mem_nil _
  | letter letter isSign isRun =>
      refine List.forall_mem_cons.mpr ⟨?_, List.forall_mem_append.mpr
        ⟨isBlank_of_isSign isSign, isBlank_of_isRun isRun⟩⟩
      rcases letter with rfl | rfl <;> decide

/-- A decimal is read as the number that its digits become with their power of ten. -/
theorem IsDecimal.read?_eq {text : List Char} {negative : Bool} {digits : ℕ} {power : ℤ}
    (isDecimal : IsDecimal text negative digits power) :
    Binary64.read? text = some (Binary64.ofDecimal negative digits power) := by
  cases isDecimal with
  | @numeral front sign whole fraction places exponent back power blankFront blankBack isSign
      isWhole isFraction digits isExponent =>
      obtain ⟨plainFraction, cleansFraction, point⟩ := isFraction.exists_plain
      obtain ⟨plainExponent, cleansExponent, read, letter⟩ := isExponent.exists_plain
      have ascii : ∀ c ∈ asciiRun whole ++ asciiRun places, c.isDigit = true :=
        List.forall_mem_append.mpr
          ⟨fun _ => isDigit_of_mem_asciiRun, fun _ => isDigit_of_mem_asciiRun⟩
      have some : asciiRun whole ++ asciiRun places ≠ [] := by
        rcases isWhole with rfl | isRun
        · exact asciiRun_ne_nil (isFraction.optional.resolve_left digits)
        · exact List.append_ne_nil_of_left_ne_nil (asciiRun_ne_nil isRun) _
      have solid : ∀ c ∈ sign ++ (whole ++ (fraction ++ exponent)), isNumeralBlank c = false := by
        have unblank : ∀ c ∈ sign ++ (whole ++ (fraction ++ exponent)), isBlank c = false := by
          simp only [List.forall_mem_append]
          exact ⟨isBlank_of_isSign isSign, isBlank_of_optional isWhole,
            isBlank_of_isFractionPart isFraction, isBlank_of_isExponentPart isExponent⟩
        intro c member
        rw [isNumeralBlank, unblank c member, Bool.false_and]
      have cleans : CleansTo (sign ++ (whole ++ (fraction ++ exponent)))
          (sign ++ (asciiRun whole ++ (plainFraction ++ plainExponent))) :=
        .append (.sign isSign) (.append (.optional isWhole) (.append cleansFraction cleansExponent))
      have cleaned := cleans.dropUnderscores_eq
      rw [← stripWhile_append blankFront blankBack solid] at cleaned
      rw [read?_of_plain cleaned isSign (exists_head? ascii some point plainExponent),
        readUnsigned_append ascii some point letter read, ← asciiRun_append, asciiValue_asciiRun,
        length_asciiRun]

end RideQuery.Number
