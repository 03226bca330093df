import RideQuery.Proofs.Dictionary
import RideQuery.Proofs.Fallible
import RideQuery.Proofs.Sql.Shown

/-!
# Renaming numbered placeholders

A text whose placeholders are numbered in order consists of segments with `$1`, `$2`
and so on between them.  Giving names to its placeholders leaves the segments alone,
and every parameter is bound under the name of its number.
-/

namespace RideQuery.Sql

open RideQuery.Text RideQuery.Number

/-- Segments with the marks of successive numbers between them. -/
def interleaved (mark : Nat → List Char) (number : Nat) (first : List Char) :
    List (List Char) → List Char
  | [] => first
  | next :: rest => first ++ mark number ++ interleaved mark (number + 1) next rest

/-- The mark of a placeholder with a number. -/
def numberMark (number : Nat) : List Char :=
  '$' :: numeral number

/-- The mark of a name with a number. -/
def nameMark (number : Nat) : List Char :=
  ':' :: (bindName defaultStem number).toList

/-- Parameters under the names of their numbers, the first one being 1. -/
def numberedBinds (parameters : List Value) : Dict :=
  (parameters.zipIdx 1).map fun (value, number) => (.text (bindName defaultStem number), value)

theorem interleaved_append (mark : Nat → List Char) (number : Nat) (text first : List Char)
    (rest : List (List Char)) :
    interleaved mark number (text ++ first) rest = text ++ interleaved mark number first rest := by
  cases rest <;> simp [interleaved]

/-! ## Segments -/

/-- A piece whose placeholder is written in some way. -/
def Piece.writtenWith (write : List Char → List Char) : Piece → List Char
  | .placeholder digits => write digits
  | other => other.text

/-- Written as they were, pieces make up their text. -/
theorem Piece.writtenWith_dollar : Piece.writtenWith ('$' :: ·) = Piece.text := by
  funext piece
  cases piece <;> rfl

/-- However numbered placeholders are written, the segments between them stay the same. -/
theorem exists_segments {pieces : List Piece} {number count : Nat}
    (numbered : pieces.filterMap Piece.digits? = (List.range' number count).map numeral) :
    ∃ first rest, rest.length = count ∧
      ∀ write, pieces.flatMap (Piece.writtenWith write) =
        interleaved (write ∘ numeral) number first rest := by
  induction pieces generalizing number count with
  | nil =>
      cases count with
      | zero => exact ⟨[], [], rfl, fun _ => rfl⟩
      | succ count => simp [List.range'_succ] at numbered
  | cons piece pieces inductionHypothesis =>
      cases piece with
      | placeholder digits =>
          cases count with
          | zero => simp [Piece.digits?] at numbered
          | succ count =>
              simp only [List.filterMap_cons, Piece.digits?, List.range'_succ, List.map_cons,
                List.cons.injEq] at numbered
              obtain ⟨first, rest, length, written⟩ := inductionHypothesis numbered.2
              have longer : (first :: rest).length = count + 1 := congrArg Nat.succ length
              refine ⟨[], first :: rest, longer, fun write => ?_⟩
              rw [List.flatMap_cons, written write, numbered.1]
              rfl
      | literal text =>
          obtain ⟨first, rest, length, written⟩ := inductionHypothesis numbered
          refine ⟨text ++ first, rest, length, fun write => ?_⟩
          rw [List.flatMap_cons, written write, interleaved_append]
          rfl
      | plain c =>
          obtain ⟨first, rest, length, written⟩ := inductionHypothesis numbered
          refine ⟨[c] ++ first, rest, length, fun write => ?_⟩
          rw [List.flatMap_cons, written write, interleaved_append]
          rfl

/-! ## Names and binds -/

theorem placeholderNumber_numeral {number : Nat} (short : (numeral number).length ≤ maxDigits) :
    placeholderNumber (numeral number) = .ok number := by
  rw [placeholderNumber, if_neg (Nat.not_lt.mpr short)]
  exact congrArg Except.ok (ofDigits_repr number)

/-- A numeral is read as its number or refused for its length. -/
theorem placeholderNumber_eq_ok {number result : Nat}
    (read : placeholderNumber (numeral number) = .ok result) :
    result = number ∧ (numeral number).length ≤ maxDigits := by
  by_cases long : maxDigits < (numeral number).length
  · rw [placeholderNumber, if_pos long] at read
    contradiction
  · have short := Nat.not_lt.mp long
    rw [placeholderNumber_numeral short] at read
    exact ⟨(Except.ok.inj read).symm, short⟩

/-- Numerals are read as their numbers unless one of them is refused. -/
theorem placeholders_eq_ok_iff {text : List Char} {indices numbers : List Nat}
    (numbered : placeholderDigits text = indices.map numeral) :
    placeholders text = .ok numbers ↔
      numbers = indices ∧ ∀ number ∈ indices, (numeral number).length ≤ maxDigits := by
  rw [placeholders, ← placeholderDigits, numbered, mapM_eq_ok_iff, List.forall₂_map_left_iff]
  constructor
  · intro read
    clear numbered
    induction read with
    | nil => exact ⟨rfl, by simp⟩
    | cons one _ inductionHypothesis =>
        obtain ⟨rfl, short⟩ := placeholderNumber_eq_ok one
        obtain ⟨rfl, allShort⟩ := inductionHypothesis
        exact ⟨rfl, List.forall_mem_cons.mpr ⟨short, allShort⟩⟩
  · rintro ⟨rfl, short⟩
    exact List.forall₂_same.mpr fun number member =>
      placeholderNumber_numeral (short number member)

/-- The digits of a placeholder as a name. -/
def nameDigits (digits : List Char) : List Char :=
  ':' :: (defaultStem.toList ++ digits)

theorem nameDigits_numeral (number : Nat) : nameDigits (numeral number) = nameMark number := by
  simp [nameDigits, nameMark, bindName, numeral]

/-- The name of a number with the parameter that it stands for. -/
def boundName (parameters : List Value) (number : Nat) : String × Value :=
  (bindName defaultStem number, (parameter? parameters number).getD .null)

/-- A piece with its placeholder named and bound to the parameter with its number. -/
def Piece.renamed (parameters : List Value) (piece : Piece) : NamedPiece :=
  { text := piece.writtenWith nameDigits
    bind := piece.digits?.map fun digits =>
      boundName parameters (ofDigits (digits.filterMap digitValue?)) }

/-- Numbers that can be read and have a parameter. -/
def HasParameter (parameters : List Value) (number : Nat) : Prop :=
  (numeral number).length ≤ maxDigits ∧ 1 ≤ number ∧ number ≤ parameters.length

theorem parameter?_of_hasParameter {parameters : List Value} {number : Nat}
    (has : HasParameter parameters number) :
    ∃ value, parameter? parameters number = some value := by
  have positive : number ≠ 0 := by have := has.2.1; omega
  have inside : number - 1 < parameters.length := by have := has.2; omega
  rw [parameter?, if_neg positive, List.getElem?_eq_getElem inside]
  exact ⟨parameters[number - 1], rfl⟩

theorem Piece.named_eq_renamed {parameters : List Value} {piece : Piece}
    (numbered : ∀ digits, piece.digits? = some digits →
      ∃ number, digits = numeral number ∧ HasParameter parameters number) :
    piece.named defaultStem parameters = .ok (piece.renamed parameters) := by
  cases piece with
  | literal text => rfl
  | plain c => rfl
  | placeholder digits =>
      obtain ⟨number, rfl, has⟩ := numbered digits rfl
      obtain ⟨value, found⟩ := parameter?_of_hasParameter has
      have read : ofDigits ((numeral number).filterMap digitValue?) = number :=
        ofDigits_repr number
      simp only [Piece.named, Piece.renamed, Piece.writtenWith, Piece.digits?, Option.map_some,
        placeholderNumber_numeral has.1, found, nameDigits_numeral, read, boundName,
        Option.getD_some]
      rfl

theorem flatMap_text_renamed (parameters : List Value) (pieces : List Piece) :
    (pieces.map (Piece.renamed parameters)).flatMap NamedPiece.text =
      pieces.flatMap (Piece.writtenWith nameDigits) :=
  List.flatMap_map ..

theorem filterMap_bind_renamed (parameters : List Value) (pieces : List Piece) :
    (pieces.map (Piece.renamed parameters)).filterMap NamedPiece.bind =
      (pieces.filterMap Piece.digits?).map fun digits =>
        boundName parameters (ofDigits (digits.filterMap digitValue?)) := by
  rw [List.filterMap_map, List.map_filterMap]
  rfl

/-- Numbering parameters from 1 gives each the name of its number. -/
theorem map_boundName_range (parameters : List Value) :
    (List.range' 1 parameters.length).map (boundName parameters) =
      (parameters.zipIdx 1).map fun (value, number) => (bindName defaultStem number, value) := by
  apply List.ext_getElem
  · simp
  · intro position inside _
    have bound : position < parameters.length := by simpa using inside
    simp [boundName, parameter?, bound]

theorem bindName_injective {m n : Nat} (same : bindName defaultStem m = bindName defaultStem n) :
    m = n := by
  have digits : (Nat.repr m).toList = (Nat.repr n).toList := by
    have lists := congrArg String.toList same
    simpa [bindName] using lists
  exact repr_injective (String.toList_inj.mp digits)

/-- The names of different numbers are kept apart. -/
theorem ofEntries_numberedBinds (parameters : List Value) :
    Value.ofEntries (numberedBinds parameters) = numberedBinds parameters := by
  apply Value.ofEntries_of_pairwise
  rw [numberedBinds, List.pairwise_map]
  have distinct : ((parameters.zipIdx 1).map Prod.snd).Pairwise (· ≠ ·) := by
    rw [List.zipIdx_map_snd]
    exact List.nodup_range'
  apply (List.pairwise_map.mp distinct).imp
  intro entry next different
  rw [Value.sameKey_text, beq_eq_false_iff_ne]
  exact fun same => different (bindName_injective same)

theorem filterMap_bind_of_numbered {text : List Char} {parameters : List Value}
    (numbered : placeholderDigits text = (List.range' 1 parameters.length).map numeral) :
    ((pieces text).map (Piece.renamed parameters)).filterMap NamedPiece.bind =
      (parameters.zipIdx 1).map fun (value, number) => (bindName defaultStem number, value) := by
  have read : (fun digits => boundName parameters (ofDigits (digits.filterMap digitValue?))) ∘
      numeral = boundName parameters :=
    funext fun number => congrArg (boundName parameters) (ofDigits_repr number)
  rw [filterMap_bind_renamed, ← placeholderDigits, numbered, List.map_map, read,
    map_boundName_range]

/-- The text of renamed pieces, and their names with the parameters. -/
theorem ofPieces_renamed {text : List Char} {parameters : List Value}
    (numbered : placeholderDigits text = (List.range' 1 parameters.length).map numeral) :
    NamedText.ofPieces ((pieces text).map (Piece.renamed parameters)) =
      { text := (pieces text).flatMap (Piece.writtenWith nameDigits)
        binds := numberedBinds parameters } := by
  rw [NamedText.ofPieces, flatMap_text_renamed, filterMap_bind_of_numbered numbered,
    List.map_map]
  exact congrArg _ (ofEntries_numberedBinds parameters)

/--
A text whose placeholders are numbered in order, as many as there are parameters: its
segments, what naming makes of it, and what the names stand for.
-/
theorem bindNames_of_numbered {text : List Char} {parameters : List Value}
    (numbered : placeholderDigits text = (List.range' 1 parameters.length).map numeral)
    (short : ∀ number ∈ List.range' 1 parameters.length,
      (numeral number).length ≤ maxDigits) :
    ∃ first rest, rest.length = parameters.length ∧
      text = interleaved numberMark 1 first rest ∧
      bindNames defaultStem text parameters =
        .ok { text := interleaved nameMark 1 first rest, binds := numberedBinds parameters } := by
  obtain ⟨first, rest, length, written⟩ := exists_segments numbered
  have hasParameter : ∀ piece ∈ pieces text, ∀ digits, piece.digits? = some digits →
      ∃ number, digits = numeral number ∧ HasParameter parameters number := by
    intro piece member digits found
    have shown : digits ∈ placeholderDigits text :=
      List.mem_filterMap.mpr ⟨piece, member, found⟩
    rw [numbered] at shown
    obtain ⟨number, inRange, rfl⟩ := List.mem_map.mp shown
    have bounds := List.mem_range'_1.mp inRange
    exact ⟨number, rfl, short number inRange, bounds.1, by omega⟩
  have named : (pieces text).mapM (Piece.named defaultStem parameters) =
      .ok ((pieces text).map (Piece.renamed parameters)) :=
    mapM_eq_ok_map fun piece member => Piece.named_eq_renamed (hasParameter piece member)
  refine ⟨first, rest, length, ?_, ?_⟩
  · calc
      text = (pieces text).flatMap Piece.text := (flatMap_text_pieces text).symm
      _ = (pieces text).flatMap (Piece.writtenWith ('$' :: ·)) := by
          rw [Piece.writtenWith_dollar]
      _ = interleaved numberMark 1 first rest := written ('$' :: ·)
  · have marks : nameDigits ∘ numeral = nameMark := funext nameDigits_numeral
    rw [bindNames, named, ok_bind, ofPieces_renamed numbered, written nameDigits, marks]
    rfl

end RideQuery.Sql
