import RideQuery.Proofs.Json.Numeral
import RideQuery.Proofs.Json.Quotation

/-!
# The grammar of JSON

A document is a value with blanks around it, with room for its brackets inside each other and
for the names of numbers in them, and with a limit on the digits of its integers.  A text exceeds
a limit if a document could still come of it until a part is too deep or an integer too long;
what follows there does not matter.
-/

namespace RideQuery.Json

open RideQuery.Text RideQuery.Number

/-! ## Parts of a document -/

/-- The two kinds of brackets. -/
inductive Bracket where
  /-- Around the items of a list. -/
  | list
  /-- Around the entries of a dictionary. -/
  | dict

namespace Bracket

/-- The bracket that opens. -/
def left : Bracket → Char
  | .list => '['
  | .dict => '\x7b'

/-- The bracket that closes. -/
def right : Bracket → Char
  | .list => ']'
  | .dict => '\x7d'

/-- What there is no room for if too many brackets are open already. -/
def activity : Bracket → Activity
  | .list => .decodingArray
  | .dict => .decodingObject

end Bracket

/-- The parts of a document that are made of others. -/
inductive Part where
  | value
  /-- A member between brackets. -/
  | member (bracket : Bracket)
  /-- The members behind an opening bracket, with the closing one. -/
  | closing (bracket : Bracket)

/-- Blanks between the parts of a document. -/
def IsBlanks (text : List Char) : Prop :=
  ∀ c ∈ text, isSpace c = true

/-- Parts of a document, where so many levels have room. -/
inductive IsPart : Part → Nat → List Char → Prop
  | name {room : Nat} {name : Name} (known : name ∈ names)
      (fits : name.isLookedUp = true → room ≠ 0) : IsPart .value room name.letters.toList
  | numeral {room : Nat} (numeral : Numeral) (short : ¬numeral.IsLong) :
      IsPart .value room numeral.text
  | quotation {room : Nat} {text : List Char} (quotation : IsQuotation text) :
      IsPart .value room ('"' :: text)
  | empty {room : Nat} {bracket : Bracket} {blanks : List Char} (blank : IsBlanks blanks) :
      IsPart .value (room + 1) (bracket.left :: (blanks ++ [bracket.right]))
  | brackets {room : Nat} {bracket : Bracket} {blanks members : List Char}
      (blank : IsBlanks blanks) (closing : IsPart (.closing bracket) room members) :
      IsPart .value (room + 1) (bracket.left :: (blanks ++ members))
  | item {room : Nat} {text : List Char} (value : IsPart .value room text) :
      IsPart (.member .list) room text
  | entry {room : Nat} {key before behind text : List Char} (quotation : IsQuotation key)
      (blankBefore : IsBlanks before) (blankBehind : IsBlanks behind)
      (value : IsPart .value room text) :
      IsPart (.member .dict) room ('"' :: (key ++ (before ++ ':' :: (behind ++ text))))
  | last {room : Nat} {bracket : Bracket} {text blanks : List Char}
      (member : IsPart (.member bracket) room text) (blank : IsBlanks blanks) :
      IsPart (.closing bracket) room (text ++ (blanks ++ [bracket.right]))
  | more {room : Nat} {bracket : Bracket} {text before behind members : List Char}
      (member : IsPart (.member bracket) room text) (blankBefore : IsBlanks before)
      (blankBehind : IsBlanks behind) (closing : IsPart (.closing bracket) room members) :
      IsPart (.closing bracket) room (text ++ (before ++ ',' :: (behind ++ members)))

/-- Texts that begin as a part, up to where a limit is exceeded. -/
inductive Exceeds : ReadError → Part → Nat → List Char → Prop
  | numeral {room : Nat} (numeral : Numeral) (long : numeral.IsLong) {rest : List Char}
      (ends : Ends rest) :
      Exceeds (.number (.tooManyDigits numeral.whole.length)) .value room
        (numeral.text ++ rest)
  | name {name : Name} (known : name ∈ names) (lookedUp : name.isLookedUp = true)
      (rest : List Char) : Exceeds (.tooDeep .calling) .value 0 (name.letters.toList ++ rest)
  | deep (bracket : Bracket) (rest : List Char) :
      Exceeds (.tooDeep bracket.activity) .value 0 (bracket.left :: rest)
  | brackets {error : ReadError} {room : Nat} {bracket : Bracket} {blanks text : List Char}
      (blank : IsBlanks blanks) (closing : Exceeds error (.closing bracket) room text) :
      Exceeds error .value (room + 1) (bracket.left :: (blanks ++ text))
  | item {error : ReadError} {room : Nat} {text : List Char}
      (value : Exceeds error .value room text) : Exceeds error (.member .list) room text
  | entry {error : ReadError} {room : Nat} {key before behind text : List Char}
      (quotation : IsQuotation key) (blankBefore : IsBlanks before)
      (blankBehind : IsBlanks behind) (value : Exceeds error .value room text) :
      Exceeds error (.member .dict) room
        ('"' :: (key ++ (before ++ ':' :: (behind ++ text))))
  | first {error : ReadError} {room : Nat} {bracket : Bracket} {text : List Char}
      (member : Exceeds error (.member bracket) room text) :
      Exceeds error (.closing bracket) room text
  | later {error : ReadError} {room : Nat} {bracket : Bracket}
      {text before behind members : List Char} (member : IsPart (.member bracket) room text)
      (blankBefore : IsBlanks before) (blankBehind : IsBlanks behind)
      (closing : Exceeds error (.closing bracket) room members) :
      Exceeds error (.closing bracket) room (text ++ (before ++ ',' :: (behind ++ members)))

/-- A value with blanks around it. -/
inductive IsDocument (room : Nat) : List Char → Prop
  | value {front text back : List Char} (blankFront : IsBlanks front)
      (value : IsPart .value room text) (blankBack : IsBlanks back) :
      IsDocument room (front ++ (text ++ back))

/-- Texts that begin as a document, up to where a limit is exceeded. -/
inductive ExceedsDocument (error : ReadError) (room : Nat) : List Char → Prop
  | value {front text : List Char} (blankFront : IsBlanks front)
      (value : Exceeds error .value room text) : ExceedsDocument error room (front ++ text)

/-! ## Beginnings -/

/-- Characters that are neither blanks nor closing brackets. -/
def IsStart (c : Char) : Prop :=
  isSpace c = false ∧ c ≠ ']' ∧ c ≠ '\x7d'

instance (c : Char) : Decidable (IsStart c) :=
  inferInstanceAs (Decidable (_ ∧ _ ∧ _))

/-- Texts that begin neither with a blank nor with a closing bracket. -/
def Starts (text : List Char) : Prop :=
  ∃ c rest, text = c :: rest ∧ IsStart c

theorem Starts.append {text : List Char} (starts : Starts text) (rest : List Char) :
    Starts (text ++ rest) := by
  obtain ⟨c, others, rfl, starts⟩ := starts
  exact ⟨c, others ++ rest, rfl, starts⟩

theorem isStart_of_isDigit {c : Char} (digit : c.isDigit = true) : IsStart c := by
  have bounds := toNat_bounds_of_isDigit digit
  have all : ∀ code < 58, 48 ≤ code → IsStart (Char.ofNat code) := by decide
  rw [← Char.ofNat_toNat c]
  exact all c.toNat (by omega) bounds.1

theorem Numeral.starts (numeral : Numeral) : Starts numeral.text := by
  obtain ⟨c, rest, begins, digit⟩ := numeral.exists_unsigned_eq_cons
  rw [Numeral.text, begins]
  cases numeral.negative
  · exact ⟨c, rest, rfl, isStart_of_isDigit digit⟩
  · exact ⟨'-', c :: rest, rfl, by decide⟩

theorem Bracket.starts (bracket : Bracket) (rest : List Char) : Starts (bracket.left :: rest) := by
  cases bracket <;> exact ⟨_, rest, rfl, by decide⟩

theorem starts_of_mem_names {name : Name} (known : name ∈ names) :
    Starts name.letters.toList := by
  simp only [names, List.mem_cons, List.not_mem_nil, or_false] at known
  rcases known with rfl | rfl | rfl | rfl | rfl | rfl <;> exact ⟨_, _, rfl, by decide⟩

/-- Every part begins neither with a blank nor with a closing bracket. -/
theorem IsPart.starts {part : Part} {room : Nat} {text : List Char}
    (isPart : IsPart part room text) : Starts text := by
  induction isPart with
  | name known _ => exact starts_of_mem_names known
  | numeral numeral _ => exact numeral.starts
  | quotation _ => exact ⟨'"', _, rfl, by decide⟩
  | empty _ => exact Bracket.starts _ _
  | brackets _ _ _ => exact Bracket.starts _ _
  | item _ inductionHypothesis => exact inductionHypothesis
  | entry _ _ _ _ _ => exact ⟨'"', _, rfl, by decide⟩
  | last _ _ inductionHypothesis => exact inductionHypothesis.append _
  | more _ _ _ _ inductionHypothesis _ => exact inductionHypothesis.append _

theorem Exceeds.starts {error : ReadError} {part : Part} {room : Nat} {text : List Char}
    (exceeds : Exceeds error part room text) : Starts text := by
  induction exceeds with
  | numeral numeral _ _ => exact numeral.starts.append _
  | name known _ _ => exact (starts_of_mem_names known).append _
  | deep bracket rest => exact bracket.starts rest
  | brackets _ _ _ => exact Bracket.starts _ _
  | item _ inductionHypothesis => exact inductionHypothesis
  | entry _ _ _ _ _ => exact ⟨'"', _, rfl, by decide⟩
  | first _ inductionHypothesis => exact inductionHypothesis
  | later member _ _ _ _ => exact member.starts.append _

/-- A limit is not exceeded by a malformed text as such. -/
theorem Exceeds.ne_malformed {error : ReadError} {part : Part} {room : Nat} {text : List Char}
    (exceeds : Exceeds error part room text) : error ≠ .malformed := by
  induction exceeds with
  | numeral _ _ _ => exact ReadError.noConfusion
  | name _ _ _ | deep _ _ => exact ReadError.noConfusion
  | brackets _ _ inductionHypothesis => exact inductionHypothesis
  | item _ inductionHypothesis => exact inductionHypothesis
  | entry _ _ _ _ inductionHypothesis => exact inductionHypothesis
  | first _ inductionHypothesis => exact inductionHypothesis
  | later _ _ _ _ inductionHypothesis => exact inductionHypothesis

theorem ExceedsDocument.ne_malformed {error : ReadError} {room : Nat} {text : List Char}
    (exceeds : ExceedsDocument error room text) : error ≠ .malformed := by
  cases exceeds with
  | value _ value => exact value.ne_malformed

/-! ## Blanks -/

theorem skipSpace_append_cons {blanks : List Char} (blank : IsBlanks blanks) {c : Char}
    (solid : isSpace c = false) (rest : List Char) :
    skipSpace (blanks ++ c :: rest) = c :: rest := by
  rw [skipSpace, List.dropWhile_append_of_pos blank]
  simp [solid]

theorem skipSpace_append {blanks text : List Char} (blank : IsBlanks blanks)
    (starts : Starts text) : skipSpace (blanks ++ text) = text := by
  obtain ⟨c, rest, rfl, solid, _⟩ := starts
  exact skipSpace_append_cons blank solid rest

theorem skipSpace_eq_nil_iff {text : List Char} : skipSpace text = [] ↔ IsBlanks text :=
  List.dropWhile_eq_nil_iff

theorem exists_blanks_append (text : List Char) :
    ∃ blanks, text = blanks ++ skipSpace text ∧ IsBlanks blanks :=
  ⟨text.takeWhile isSpace, List.takeWhile_append_dropWhile.symm, fun _ => List.mem_takeWhile_imp⟩

/-! ## Ends of numerals -/

/-- Characters that no numeral goes on with. -/
def IsEnd (c : Char) : Prop :=
  c.isDigit = false ∧ c ≠ '.' ∧ c ≠ 'e' ∧ c ≠ 'E'

instance (c : Char) : Decidable (IsEnd c) :=
  inferInstanceAs (Decidable (_ ∧ _ ∧ _ ∧ _))

theorem ends_of_isEnd {rest : List Char} (isEnd : ∀ c ∈ rest.head?, IsEnd c) : Ends rest := by
  refine ⟨fun c first => (isEnd c first).1, ?_, ?_⟩
  · rintro _ ⟨_⟩ ⟨more, rfl⟩
    exact (isEnd '.' rfl).2.1 rfl
  · rintro _ ⟨letter, _, _⟩ ⟨more, rfl⟩
    obtain ⟨_, _, small, capital⟩ := isEnd _ rfl
    exact letter.elim small capital

theorem isEnd_of_isSpace {c : Char} (space : isSpace c = true) : IsEnd c := by
  simp only [isSpace, Bool.or_eq_true, beq_iff_eq] at space
  rcases space with ((rfl | rfl) | rfl) | rfl <;> decide

theorem ends_of_isBlanks {blanks : List Char} (blank : IsBlanks blanks) : Ends blanks :=
  ends_of_isEnd fun c first => isEnd_of_isSpace (blank c (List.mem_of_head? first))

theorem ends_append_cons {blanks : List Char} (blank : IsBlanks blanks) {c : Char}
    (isEnd : IsEnd c) (rest : List Char) : Ends (blanks ++ c :: rest) := by
  refine ends_of_isEnd (forall_head?_append (fun d first => ?_) ?_)
  · exact isEnd_of_isSpace (blank d (List.mem_of_head? first))
  · rintro _ ⟨⟩
    exact isEnd

theorem Bracket.isEnd_right (bracket : Bracket) : IsEnd bracket.right := by
  cases bracket <;> decide

end RideQuery.Json
