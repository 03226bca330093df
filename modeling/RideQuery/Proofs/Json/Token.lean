import RideQuery.Json.Reader
import RideQuery.Json.Writer
import RideQuery.Proofs.Fallible
import RideQuery.Proofs.Number.Literal

/-!
# Texts and numbers of JSON

A text that a log line holds is read back up to its closing mark, whatever follows.  An
integer is read back up to a character that cannot continue it.  Neither is written with a
character below the blank, so they do not break a line.
-/

namespace RideQuery.Json

open RideQuery.Text RideQuery.Number

/-! ## Characters -/

/-- Characters that do not control the line they stand in. -/
def IsVisible (c : Char) : Prop :=
  ' ' ≤ c

instance (c : Char) : Decidable (IsVisible c) :=
  inferInstanceAs (Decidable (_ ≤ _))

theorem toNat_lt_of_not_isVisible {c : Char} (control : ¬ IsVisible c) : c.toNat < 32 := by
  have below : c < ' ' := Char.not_le.mp control
  exact UInt32.lt_iff_toNat_lt.mp below

theorem hexValue?_hexDigit {digit : Nat} (small : digit < 16) :
    hexValue? (hexDigit digit) = some digit := by
  have all : ∀ digit < 16, hexValue? (hexDigit digit) = some digit := by decide
  exact all digit small

/-- Four hexadecimal digits are read as the code that they were made from. -/
theorem readUnit?_hexDigits {code : Nat} (small : code < 65536) (rest : List Char) :
    readUnit? (hexDigits 4 code ++ rest) = some (code, rest) := by
  have digits : hexDigits 4 code = [hexDigit (code / 16 / 16 / 16 % 16),
      hexDigit (code / 16 / 16 % 16), hexDigit (code / 16 % 16), hexDigit (code % 16)] := rfl
  have value := fun number => hexValue?_hexDigit (Nat.mod_lt number (by decide : 16 > 0))
  rw [digits]
  simp only [List.cons_append, List.nil_append, readUnit?, List.mapM_cons, List.mapM_nil, value]
  simp only [Option.pure_def, Option.bind_eq_bind, Option.bind_some, List.foldl_cons,
    List.foldl_nil, Option.some.injEq, Prod.mk.injEq, and_true]
  omega

/-- The characters that have letters of their own, and these letters. -/
def shortEscapes : List (Char × Char) :=
  [('"', '"'), ('\\', '\\'), ('\n', 'n'), ('\r', 'r'), ('\t', 't'), ('\x08', 'b'), ('\x0c', 'f')]

theorem mem_shortEscapes {c letter : Char} (short : shortEscape? c = some letter) :
    (c, letter) ∈ shortEscapes := by
  have known : c ∈ shortEscapes.map Prod.fst := by
    by_contra unknown
    simp only [shortEscapes, List.map_cons, List.map_nil, List.mem_cons, List.not_mem_nil,
      or_false, not_or] at unknown
    simp [shortEscape?, unknown] at short
  simp only [shortEscapes, List.map_cons, List.map_nil, List.mem_cons, List.not_mem_nil,
    or_false] at known
  rcases known with rfl | rfl | rfl | rfl | rfl | rfl | rfl <;> cases short <;> decide

/-- A character that a letter stands for is read back from that letter. -/
theorem readEscape?_of_shortEscape? {c letter : Char} (short : shortEscape? c = some letter)
    (rest : List Char) : readEscape? (letter :: rest) = some (.char c, rest) := by
  have known := mem_shortEscapes short
  simp only [shortEscapes, List.mem_cons, List.not_mem_nil, or_false, Prod.mk.injEq] at known
  rcases known with
    ⟨rfl, rfl⟩ | ⟨rfl, rfl⟩ | ⟨rfl, rfl⟩ | ⟨rfl, rfl⟩ | ⟨rfl, rfl⟩ | ⟨rfl, rfl⟩ | ⟨rfl, rfl⟩ <;> rfl

/-- A control character is read back from the digits of its code. -/
theorem readEscape?_hexDigits {c : Char} (control : ¬ IsVisible c) (rest : List Char) :
    readEscape? ('u' :: (hexDigits 4 c.toNat ++ rest)) = some (.char c, rest) := by
  have small := toNat_lt_of_not_isVisible control
  have high : isHighSurrogate c.toNat = false := by
    simp only [isHighSurrogate, Bool.and_eq_false_iff, decide_eq_false_iff_not]
    omega
  have low : isLowSurrogate c.toNat = false := by
    simp only [isLowSurrogate, Bool.and_eq_false_iff, decide_eq_false_iff_not]
    omega
  rw [readEscape?, readUnicode?, readUnit?_hexDigits (by omega)]
  simp [high, low, unitLetter]

theorem isVisible_of_mem_hexDigits {width code : Nat} {c : Char}
    (member : c ∈ hexDigits width code) : IsVisible c := by
  have all : ∀ digit < 16, IsVisible (hexDigit digit) := by decide
  induction width generalizing code with
  | zero => contradiction
  | succ width inductionHypothesis =>
      rw [hexDigits] at member
      rcases List.mem_append.mp member with inside | last
      · exact inductionHypothesis inside
      · rw [List.mem_singleton.mp last]
        exact all _ (Nat.mod_lt _ (by decide))

theorem isVisible_of_shortEscape? {c letter : Char} (short : shortEscape? c = some letter) :
    IsVisible letter := by
  have all : ∀ escape ∈ shortEscapes, IsVisible escape.2 := by decide
  exact all (c, letter) (mem_shortEscapes short)

/-! ## Texts -/

/-- A character stands for itself, or a backslash and letters stand for it. -/
theorem writeChar_cases (c : Char) :
    (IsVisible c ∧ c ≠ '"' ∧ c ≠ '\\' ∧ writeChar false c = [c]) ∨
      ∃ letters, writeChar false c = '\\' :: letters ∧ (∀ d ∈ letters, IsVisible d) ∧
        ∀ rest, readEscape? (letters ++ rest) = some (.char c, rest) := by
  cases short : shortEscape? c with
  | some letter =>
      right
      refine ⟨[letter], by rw [writeChar, short], ?_, readEscape?_of_shortEscape? short⟩
      simpa using isVisible_of_shortEscape? short
  | none =>
      by_cases visible : IsVisible c
      · left
        refine ⟨visible, ?_, ?_, ?_⟩
        · rintro rfl
          contradiction
        · rintro rfl
          contradiction
        · rw [writeChar, short]
          exact if_pos (decide_eq_true visible)
      · right
        have few := toNat_lt_of_not_isVisible visible
        refine ⟨'u' :: hexDigits 4 c.toNat, ?_, ?_, readEscape?_hexDigits visible⟩
        · have basic : c.toNat < 0x10000 := by omega
          have hidden : standsAlone false c = false := decide_eq_false visible
          rw [writeChar, short]
          simp [hidden, fullEscape, basic, unitEscape]
        · rw [List.forall_mem_cons]
          exact ⟨by decide, fun d => isVisible_of_mem_hexDigits⟩

/-- A written character is read back, whatever follows it. -/
theorem readTextFrom_writeChar (fuel : Nat) (c : Char) (rest : List Char) :
    readTextFrom (fuel + 1) (writeChar false c ++ rest) =
      (readTextFrom fuel rest).map fun (others, left) => (.char c :: others, left) := by
  rcases writeChar_cases c with ⟨visible, mark, backslash, alone⟩ | ⟨letters, escape, _, read⟩
  · have notBelow : ¬ c < ' ' := Char.not_lt.mpr visible
    rw [alone, List.singleton_append, readTextFrom]
    simp [mark, backslash, notBelow]
  · rw [escape, List.cons_append, readTextFrom, read]
    rfl

/-- A text is read back up to its closing mark. -/
theorem readTextFrom_flatMap {fuel : Nat} (text rest : List Char) (enough : text.length < fuel) :
    readTextFrom fuel (text.flatMap (writeChar false) ++ '"' :: rest) =
      some (text.map .char, rest) := by
  induction text generalizing fuel with
  | nil =>
      cases fuel with
      | zero => contradiction
      | succ fuel => rfl
  | cons c text inductionHypothesis =>
      cases fuel with
      | zero => contradiction
      | succ fuel =>
          have left : text.length < fuel := by simpa using enough
          rw [List.flatMap_cons, List.append_assoc, readTextFrom_writeChar,
            inductionHypothesis left]
          rfl

theorem writeChar_ne_nil (c : Char) : writeChar false c ≠ [] := by
  rcases writeChar_cases c with ⟨_, _, _, alone⟩ | ⟨letters, escape, _⟩
  · simp [alone]
  · simp [escape]

theorem readText_writeText (text rest : List Char) :
    readText (text.flatMap (writeChar false) ++ '"' :: rest) = .ok (text.map .char, rest) := by
  have longer : text.length ≤ (text.flatMap (writeChar false)).length := by
    induction text with
    | nil => exact Nat.zero_le _
    | cons c text inductionHypothesis =>
        have one := List.length_pos_iff.mpr (writeChar_ne_nil c)
        rw [List.flatMap_cons, List.length_append, List.length_cons]
        omega
  rw [readText, readTextFrom_flatMap]
  rw [List.length_append, List.length_cons]
  omega

theorem isVisible_of_mem_writeChar {c d : Char} (member : d ∈ writeChar false c) :
    IsVisible d := by
  rcases writeChar_cases c with ⟨visible, _, _, alone⟩ | ⟨letters, escape, visible, _⟩
  · rw [alone, List.mem_singleton] at member
    exact member ▸ visible
  · rw [escape, List.mem_cons] at member
    rcases member with rfl | inside
    · decide
    · exact visible d inside

theorem isVisible_of_mem_writeText {text : List Char} {c : Char}
    (member : c ∈ writeText false text) : IsVisible c := by
  rw [writeText, List.cons_append, List.mem_cons, List.mem_append, List.mem_flatMap,
    List.mem_singleton] at member
  rcases member with rfl | ⟨d, _, written⟩ | rfl
  · decide
  · exact isVisible_of_mem_writeChar written
  · decide

/-! ## Integers -/

/-- Texts that a value may be followed by: a separator, a closing bracket, or nothing. -/
def Closes (rest : List Char) : Prop :=
  ∀ c ∈ rest.head?, c ∈ [',', ']', '\x7d']

theorem closes_nil : Closes [] := by
  simp [Closes]

theorem closes_cons {c : Char} (closing : c ∈ [',', ']', '\x7d']) (rest : List Char) :
    Closes (c :: rest) := by
  simpa [Closes] using closing

/-- What a value may be followed by continues no number. -/
theorem not_continues_of_closes {rest : List Char} (closes : Closes rest) :
    ∀ c ∈ rest.head?, c.isDigit = false ∧ c ≠ '.' ∧ c ≠ 'e' ∧ c ≠ 'E' := by
  have all : ∀ c ∈ [',', ']', '\x7d'], c.isDigit = false ∧ c ≠ '.' ∧ c ≠ 'e' ∧ c ≠ 'E' := by
    decide
  intro c first
  exact all c (closes c first)

theorem takeWhile_isDigit_repr (n : Nat) {rest : List Char} (closes : Closes rest) :
    ((Nat.repr n).toList ++ rest).takeWhile Char.isDigit = (Nat.repr n).toList := by
  have other : ∀ c ∈ rest.head?, c.isDigit = false :=
    fun c first => (not_continues_of_closes closes c first).1
  exact (takeWhile_append_of_all (fun c member => isDigit_of_mem_repr member) other).1

theorem wholeDigits_repr (n : Nat) {rest : List Char} (closes : Closes rest) :
    wholeDigits ((Nat.repr n).toList ++ rest) = (Nat.repr n).toList := by
  by_cases zero : n = 0
  · subst zero
    rfl
  · have first := head?_repr_ne_zero zero
    have nonempty := toList_repr_ne_nil n
    unfold wholeDigits
    split
    · rename_i others same
      have head : ((Nat.repr n).toList ++ rest).head? = (Nat.repr n).toList.head? :=
        List.head?_append_of_ne_nil _ nonempty
      rw [← head, same] at first
      contradiction
    · exact takeWhile_isDigit_repr n closes

theorem fractionDigits_of_closes {rest : List Char} (closes : Closes rest) :
    fractionDigits rest = [] := by
  cases rest with
  | nil => rfl
  | cons c rest =>
      have point := (not_continues_of_closes closes c rfl).2.1
      unfold fractionDigits
      split
      · rename_i same
        exact absurd (List.cons.inj same).1 point
      · rfl

theorem exponentSpan_of_closes {rest : List Char} (closes : Closes rest) :
    exponentSpan rest = [] := by
  cases rest with
  | nil => rfl
  | cons c rest =>
      obtain ⟨_, _, small, capital⟩ := not_continues_of_closes closes c rfl
      simp [exponentSpan, small, capital]

/-- The sign that an integer is written with, and its digits behind it. -/
theorem exists_integerText (n : Int) :
    ∃ sign, (integerText n).toList = sign ++ (Nat.repr n.natAbs).toList ∧
      (sign = [] ∨ sign = ['-']) := by
  unfold integerText
  split
  · exact ⟨['-'], by simp, .inr rfl⟩
  · exact ⟨[], by simp, .inl rfl⟩

theorem exists_repr_eq_cons (n : Nat) :
    ∃ c digits, (Nat.repr n).toList = c :: digits ∧ c.isDigit = true := by
  cases written : (Nat.repr n).toList with
  | nil => exact absurd written (toList_repr_ne_nil n)
  | cons c digits =>
      refine ⟨c, digits, rfl, ?_⟩
      apply isDigit_of_mem_repr (n := n)
      simp [written]

theorem readNumber_integerText {n : Int} (short : digitCount n.natAbs ≤ maxDigits)
    {rest : List Char} (closes : Closes rest) :
    readNumber ((integerText n).toList ++ rest) = .ok (.int n, rest) := by
  have read := readInteger_integerText short
  obtain ⟨sign, written, signs⟩ := exists_integerText n
  obtain ⟨c, digits, repr, digit⟩ := exists_repr_eq_cons n.natAbs
  have head : (if ((sign ++ (Nat.repr n.natAbs).toList) ++ rest).head? == some '-' then ['-']
      else []) = sign := by
    rcases signs with rfl | rfl
    · have other : c ≠ '-' := by
        rintro rfl
        contradiction
      simp [repr, other]
    · rfl
  have behindSign : ((sign ++ (Nat.repr n.natAbs).toList) ++ rest).drop sign.length =
      (Nat.repr n.natAbs).toList ++ rest := by
    rw [List.append_assoc, List.drop_left]
  have behindDigits : ((sign ++ (Nat.repr n.natAbs).toList) ++ rest).drop
      (sign.length + (Nat.repr n.natAbs).toList.length) = rest := by
    rw [← List.length_append, List.drop_left]
  have nonempty : (Nat.repr n.natAbs).toList.isEmpty = false := by simp [repr]
  rw [written] at read ⊢
  unfold readNumber
  dsimp only
  rw [head, behindSign, wholeDigits_repr n.natAbs closes, nonempty, behindDigits,
    fractionDigits_of_closes closes]
  simp only [List.isEmpty_nil, if_true, List.length_nil, List.drop_zero,
    exponentSpan_of_closes closes, List.append_nil, Bool.and_self, read, List.drop_left,
    Bool.false_eq_true, if_false]

theorem readName?_integerText (n : Int) (rest : List Char) :
    readName? ((integerText n).toList ++ rest) = none := by
  obtain ⟨sign, written, signs⟩ := exists_integerText n
  obtain ⟨c, digits, repr, digit⟩ := exists_repr_eq_cons n.natAbs
  have letters : ∀ letter ∈ ['n', 't', 'f', 'N', 'I', '-'], letter ≠ c := by
    have all : ∀ letter ∈ ['n', 't', 'f', 'N', 'I', '-'], letter.isDigit = false := by decide
    rintro letter member rfl
    rw [all letter member] at digit
    contradiction
  simp only [List.forall_mem_cons] at letters
  obtain ⟨n', t, f, notNumber, infinity, minus, _⟩ := letters
  rw [written, repr]
  rcases signs with rfl | rfl
  · simp [readName?, names, n', t, f, notNumber, infinity, minus]
  · simp [readName?, names, infinity]

/-- An integer is read back in front of anything that cannot continue it. -/
theorem readScalar_integerText (room : Nat) {n : Int} (short : digitCount n.natAbs ≤ maxDigits)
    {rest : List Char} (closes : Closes rest) :
    readScalar room ((integerText n).toList ++ rest) = .ok (.int n, rest) := by
  rw [readScalar, readName?_integerText, readNumber_integerText short closes]

end RideQuery.Json
