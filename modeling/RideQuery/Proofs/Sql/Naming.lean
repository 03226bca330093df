import RideQuery.Proofs.Sql.Quoting
import RideQuery.Proofs.Sql.Renaming

/-!
# Naming placeholders

Any text can have its placeholders named, whatever its quotes, if each of them has a
parameter.  What the placeholders were is replaced and all else is copied, literals
included, so the new text has no placeholder.  Numbers share a name exactly if they are
the same, however they are written.
-/

namespace RideQuery.Sql

open RideQuery.Text RideQuery.Number

/-! ## Rewritten texts -/

/-- A text from a position on, with the placeholders at some later positions written anew. -/
def rewritten (write : List Char → List Char) (text : List Char) : Nat → List Nat → List Char
  | start, [] => text.drop start
  | start, position :: rest =>
    (text.drop start).take (position - start) ++ write (dollarDigits (text.drop position)) ++
      rewritten write text (position + (dollarDigits (text.drop position)).length + 1) rest

/-- A piece that is no placeholder is copied. -/
theorem rewritten_of_copied {write : List Char → List Char} (piece : Piece) {pieces : List Piece}
    {front left : List Char} {start : Nat} (within : start ≤ front.length)
    (unmarked : piece.digits? = none)
    (rest : rewritten write (front ++ piece.text ++ left) start
      ((offsets pieces).map ((front ++ piece.text).length + ·)) =
        (front ++ piece.text).drop start ++ pieces.flatMap (Piece.writtenWith write)) :
    rewritten write (front ++ (piece.text ++ left)) start
      ((offsets (piece :: pieces)).map (front.length + ·)) =
        front.drop start ++ (piece :: pieces).flatMap (Piece.writtenWith write) := by
  have copied : piece.writtenWith write = piece.text := by
    cases piece with
    | placeholder digits => contradiction
    | _ => rfl
  have places : (offsets (piece :: pieces)).map (front.length + ·) =
      (offsets pieces).map ((front ++ piece.text).length + ·) := by
    simp [offsets, unmarked, Function.comp_def, Nat.add_assoc]
  rw [places, ← List.append_assoc, rest, List.drop_append_of_le_length within,
    List.flatMap_cons, copied, List.append_assoc]

theorem rewritten_placeholder {write : List Char → List Char} {pieces : List Piece}
    {front digits left : List Char} {start : Nat} (within : start ≤ front.length)
    (decimal : ∀ c ∈ digits, isDecimalDigit c = true) (ends : EndsNumeral left)
    (rest : rewritten write (front ++ '$' :: digits ++ left) (front ++ '$' :: digits).length
      ((offsets pieces).map ((front ++ '$' :: digits).length + ·)) =
        pieces.flatMap (Piece.writtenWith write)) :
    rewritten write (front ++ '$' :: (digits ++ left)) start
      ((offsets (.placeholder digits :: pieces)).map (front.length + ·)) =
        front.drop start ++
          (.placeholder digits :: pieces).flatMap (Piece.writtenWith write) := by
  have places : (offsets (.placeholder digits :: pieces)).map (front.length + ·) =
      front.length :: (offsets pieces).map ((front ++ '$' :: digits).length + ·) := by
    simp [offsets, Piece.digits?, Piece.text, Function.comp_def, Nat.add_assoc]
  have own : dollarDigits ((front ++ '$' :: (digits ++ left)).drop front.length) = digits := by
    rw [List.drop_left]
    exact dollarDigits_placeholder decimal ends
  have copied : ((front ++ '$' :: (digits ++ left)).drop start).take (front.length - start) =
      front.drop start := by
    rw [List.drop_append_of_le_length within, List.take_left' (List.length_drop ..)]
  have further : front.length + digits.length + 1 = (front ++ '$' :: digits).length := by
    rw [List.length_append, List.length_cons, Nat.add_assoc]
  have whole : front ++ '$' :: (digits ++ left) = front ++ '$' :: digits ++ left := by simp
  rw [places, rewritten, own, copied, further, whole, rest, List.flatMap_cons, List.append_assoc]
  rfl

/-- Writing the placeholders of a scan anew is doing so at their positions in the text. -/
theorem Scans.rewritten_eq {text : List Char} {pieces : List Piece} (scan : Scans text pieces)
    (write : List Char → List Char) (front : List Char) {start : Nat}
    (within : start ≤ front.length) :
    rewritten write (front ++ text) start ((offsets pieces).map (front.length + ·)) =
      front.drop start ++ pieces.flatMap (Piece.writtenWith write) := by
  induction scan generalizing front start with
  | nil => simp [rewritten, offsets]
  | @literal inside left pieces _ _ _ inductionHypothesis =>
      have longer : start ≤ (front ++ singleQuote :: inside).length := by simp; omega
      exact rewritten_of_copied (.literal _) within rfl (inductionHypothesis _ longer)
  | @quote left pieces _ _ inductionHypothesis =>
      have longer : start ≤ (front ++ [singleQuote]).length := by simp; omega
      exact rewritten_of_copied (.plain _) within rfl (inductionHypothesis _ longer)
  | @placeholder digits left pieces _ decimal ends _ inductionHypothesis =>
      have rest := inductionHypothesis (front ++ '$' :: digits) (Nat.le_refl _)
      rw [List.drop_length, List.nil_append] at rest
      exact rewritten_placeholder within decimal ends rest
  | @plain c left pieces _ _ _ inductionHypothesis =>
      have longer : start ≤ (front ++ [c]).length := by simp; omega
      exact rewritten_of_copied (.plain _) within rfl (inductionHypothesis _ longer)

/-- Writing the placeholders of a text anew copies everything between them. -/
theorem rewritten_marks (write : List Char → List Char) (text : List Char) :
    rewritten write text 0 (marks text) =
      (pieces text).flatMap (Piece.writtenWith write) := by
  have scan := scans_pieces text
  have same := scan.rewritten_eq write [] (Nat.le_refl 0)
  rw [scan.marks_eq]
  simpa using same

/-! ## Names in place of placeholders -/

/-- The name that digits are replaced by, with the mark in front of it. -/
def nameFor (digits : List Char) : List Char :=
  nameMark (numberOf digits)

theorem inert_nameFor (digits : List Char) : Inert (nameFor digits) := by
  have solid : Solid (numeral (numberOf digits)) := solid_of_numberText (.repr _)
  rw [nameFor, ← nameDigits_numeral]
  exact inert_cons.mpr ⟨by decide, inert_append.mpr ⟨by decide, solid.inert⟩⟩

/-- What a piece becomes when placeholders are named. -/
def Piece.silenced : Piece → List Piece
  | .placeholder digits => (nameFor digits).map .plain
  | other => [other]

namespace Scans

variable {text : List Char} {pieces : List Piece}

/-- Inert text is cut into its characters. -/
theorem of_inert {front : List Char} (inert : Inert front) (scan : Scans text pieces) :
    Scans (front ++ text) (front.map .plain ++ pieces) := by
  induction front with
  | nil => exact scan
  | cons c front inductionHypothesis =>
      obtain ⟨first, others⟩ := inert_cons.mp inert
      exact .plain first.1 (fun isDollar => absurd isDollar first.2) (inductionHypothesis others)

/-- Naming placeholders brings no quote in. -/
theorem quote_not_mem (scan : Scans text pieces) (unquoted : singleQuote ∉ text) :
    singleQuote ∉ pieces.flatMap (Piece.writtenWith nameFor) := by
  induction scan with
  | nil => exact unquoted
  | literal _ _ _ _ => simp at unquoted
  | quote _ _ _ => simp at unquoted
  | @placeholder digits left pieces _ _ _ _ inductionHypothesis =>
      have behind : singleQuote ∉ left := fun member => unquoted (by simp [member])
      rw [List.flatMap_cons, List.mem_append, not_or]
      exact ⟨fun member => (inert_nameFor digits _ member).1 rfl, inductionHypothesis behind⟩
  | @plain c left pieces _ _ _ inductionHypothesis =>
      obtain ⟨other, behind⟩ := not_or.mp (mt List.mem_cons.mpr unquoted)
      rw [List.flatMap_cons, List.mem_append, not_or]
      exact ⟨by simpa [Piece.writtenWith, Piece.text] using other, inductionHypothesis behind⟩

theorem endsLiteral_written (scan : Scans text pieces) (ends : EndsLiteral text) :
    EndsLiteral (pieces.flatMap (Piece.writtenWith nameFor)) := by
  cases scan with
  | nil => exact ends
  | literal closes _ _ =>
      have last := ends _ rfl
      exact absurd (List.mem_append_left _ closes.quote_mem) last
  | quote last rest =>
      rintro _ ⟨⟩
      exact rest.quote_not_mem last
  | placeholder _ _ _ _ => exact endsLiteral_of_ne (by decide) _
  | plain unquoted _ _ => exact endsLiteral_of_ne unquoted _

theorem endsNumeral_written (scan : Scans text pieces) (ends : EndsNumeral text) :
    EndsNumeral (pieces.flatMap (Piece.writtenWith nameFor)) := by
  cases scan with
  | nil => exact ends
  | literal _ _ _ =>
      rintro _ ⟨⟩
      decide
  | quote _ _ =>
      rintro _ ⟨⟩
      decide
  | placeholder _ _ _ _ =>
      rintro _ ⟨⟩
      decide
  | plain _ _ _ =>
      rintro _ ⟨⟩
      exact ends _ rfl

/-- A text whose placeholders are named is cut where it was cut before. -/
theorem silenced (scan : Scans text pieces) :
    Scans (pieces.flatMap (Piece.writtenWith nameFor)) (pieces.flatMap Piece.silenced) := by
  induction scan with
  | nil => exact .nil
  | @literal inside left pieces closes ends rest inductionHypothesis =>
      exact .literal closes (rest.endsLiteral_written ends) inductionHypothesis
  | @quote left pieces last rest inductionHypothesis =>
      exact .quote (rest.quote_not_mem last) inductionHypothesis
  | @placeholder digits left pieces _ _ _ _ inductionHypothesis =>
      exact .of_inert (inert_nameFor digits) inductionHypothesis
  | @plain c left pieces unquoted bare rest inductionHypothesis =>
      refine .plain unquoted ?_ inductionHypothesis
      intro isDollar
      exact rest.endsNumeral_written (bare isDollar)

end Scans

theorem digits?_of_mem_silenced {piece whole : Piece} (inside : piece ∈ whole.silenced) :
    piece.digits? = none := by
  cases whole with
  | placeholder digits =>
      obtain ⟨c, _, rfl⟩ := List.mem_map.mp inside
      rfl
  | literal text =>
      obtain rfl := List.mem_singleton.mp inside
      rfl
  | plain c =>
      obtain rfl := List.mem_singleton.mp inside
      rfl

/-- Naming leaves no placeholder. -/
theorem placeholders_rewritten (text : List Char) :
    placeholders (rewritten nameFor text 0 (marks text)) = .ok [] := by
  have scan := (scans_pieces text).silenced
  have none : ((pieces text).flatMap Piece.silenced).filterMap Piece.digits? = [] := by
    rw [List.filterMap_eq_nil_iff]
    intro piece member
    obtain ⟨whole, _, inside⟩ := List.mem_flatMap.mp member
    exact digits?_of_mem_silenced inside
  rw [placeholders, ← placeholderDigits, rewritten_marks, scan.placeholderDigits_eq, none]
  rfl

/-! ## Parameters -/

variable {parameters : List Value}

/-- Numbers without a parameter, the first parameter having the number 1. -/
def IsUnmatched (parameters : List Value) (number : Nat) : Prop :=
  number = 0 ∨ parameters.length < number

theorem parameter?_eq_none_iff {number : Nat} :
    parameter? parameters number = none ↔ IsUnmatched parameters number := by
  unfold parameter? IsUnmatched
  split
  · simp_all
  · rw [List.getElem?_eq_none_iff]
    omega

theorem parameter?_eq_some_iff {number : Nat} {value : Value} :
    parameter? parameters number = some value ↔
      number ≠ 0 ∧ parameters[number - 1]? = some value := by
  unfold parameter?
  split <;> simp_all

/-- A name with a value, for the number that it is made of. -/
def IsEntry (parameters : List Value) (number : Nat) (entry : String × Value) : Prop :=
  entry.1 = bindName defaultStem number ∧ parameter? parameters number = some entry.2

theorem named_eq_error_iff {digits : List Char} (short : digits.length ≤ maxDigits)
    {error : BindError} :
    (Piece.placeholder digits).named defaultStem parameters = .error error ↔
      IsUnmatched parameters (numberOf digits) ∧
        error = .unmatched (numberOf digits) parameters.length := by
  rw [Piece.named, placeholderNumber_of_short short, ← parameter?_eq_none_iff]
  cases found : parameter? parameters (numberOf digits) with
  | none =>
      simp only [found, Except.error.injEq, true_and]
      exact eq_comm
  | some value => simp [found]

theorem exists_entry_of_named {digits : List Char} (short : digits.length ≤ maxDigits)
    {named : NamedPiece}
    (done : (Piece.placeholder digits).named defaultStem parameters = .ok named) :
    ∃ entry, named = { text := nameFor digits, bind := some entry } ∧
      IsEntry parameters (numberOf digits) entry := by
  rw [Piece.named, placeholderNumber_of_short short] at done
  cases found : parameter? parameters (numberOf digits) with
  | none => simp [found] at done
  | some value =>
      simp only [found, Except.ok.injEq] at done
      exact ⟨(bindName defaultStem (numberOf digits), value), done.symm, rfl, found⟩

/-- Pieces that have been named: their texts, and an entry for each placeholder. -/
theorem named_pieces {pieces : List Piece} {named : List NamedPiece}
    (short : ∀ digits ∈ pieces.filterMap Piece.digits?, digits.length ≤ maxDigits)
    (done : List.Forall₂ (fun piece result => piece.named defaultStem parameters = .ok result)
      pieces named) :
    named.flatMap NamedPiece.text = pieces.flatMap (Piece.writtenWith nameFor) ∧
      List.Forall₂ (IsEntry parameters) ((pieces.filterMap Piece.digits?).map numberOf)
        (named.filterMap NamedPiece.bind) := by
  induction done with
  | nil => exact ⟨rfl, .nil⟩
  | @cons piece result pieces named one _ inductionHypothesis =>
      cases piece with
      | placeholder digits =>
          obtain ⟨own, others⟩ := List.forall_mem_cons.mp short
          obtain ⟨texts, entries⟩ := inductionHypothesis others
          obtain ⟨entry, rfl, isEntry⟩ := exists_entry_of_named own one
          exact ⟨congrArg (nameFor digits ++ ·) texts, .cons isEntry entries⟩
      | literal text =>
          obtain ⟨texts, entries⟩ := inductionHypothesis short
          cases one
          exact ⟨congrArg (text ++ ·) texts, entries⟩
      | plain c =>
          obtain ⟨texts, entries⟩ := inductionHypothesis short
          cases one
          exact ⟨congrArg ([c] ++ ·) texts, entries⟩

/-- The entries of some numbers, put into a dictionary. -/
def dictOf (entries : List (String × Value)) : Dict :=
  Value.ofEntries (entries.map fun entry => (.text entry.1, entry.2))

variable {numbers : List Nat} {entries : List (String × Value)}

theorem keys_dictOf (areEntries : List.Forall₂ (IsEntry parameters) numbers entries) :
    (dictOf entries).map Prod.fst =
      numbers.eraseDups.map fun number => .text (bindName defaultStem number) := by
  have names : entries.map Prod.fst = numbers.map (bindName defaultStem) := by
    rw [← List.forall₂_eq_eq_eq, List.forall₂_map_left_iff, List.forall₂_map_right_iff]
    exact areEntries.flip.imp fun entry number isEntry => isEntry.1
  have injective : Function.Injective (bindName defaultStem) := fun _ _ => bindName_injective
  rw [dictOf, Value.keys_ofEntries, names, Value.eraseDups_map injective, List.map_map]
  rfl

/-- A name stands for a value exactly if it is that of a number whose parameter the value is. -/
theorem lookup?_dictOf_iff (areEntries : List.Forall₂ (IsEntry parameters) numbers entries)
    {name : String} {value : Value} :
    Value.lookup? (dictOf entries) name = some value ↔
      ∃ number ∈ numbers, name = bindName defaultStem number ∧
        parameter? parameters number = some value := by
  rw [dictOf, Value.lookup?_ofEntries, Option.map_eq_some_iff]
  constructor
  · rintro ⟨entry, found, rfl⟩
    have member := List.mem_reverse.mp (List.mem_of_find?_eq_some found)
    obtain ⟨number, counted, own, parameter⟩ := exists_of_mem_forall₂ areEntries entry member
    have same : entry.1 = name := by simpa using List.find?_some found
    exact ⟨number, counted, same.symm.trans own, parameter⟩
  · rintro ⟨number, counted, rfl, parameter⟩
    obtain ⟨known, member, own, _⟩ := exists_of_mem_forall₂ areEntries.flip number counted
    have some : (entries.reverse.find? fun entry =>
        entry.1 == bindName defaultStem number).isSome = true :=
      List.find?_isSome.mpr ⟨known, List.mem_reverse.mpr member, beq_iff_eq.mpr own⟩
    obtain ⟨entry, found⟩ := Option.isSome_iff_exists.mp some
    refine ⟨entry, found, ?_⟩
    -- The entry that is found may be that of another mark, but not of another number.
    have inside := List.mem_reverse.mp (List.mem_of_find?_eq_some found)
    obtain ⟨other, _, named, its⟩ := exists_of_mem_forall₂ areEntries entry inside
    have same : entry.1 = bindName defaultStem number := by simpa using List.find?_some found
    obtain rfl := bindName_injective (named.symm.trans same)
    exact Option.some.inj (its.symm.trans parameter)

/-! ## Named texts -/

/-- A text with its placeholders named, which have some numbers. -/
structure NamedText.IsOf (named : NamedText) (text : List Char) (parameters : List Value)
    (numbers : List Nat) : Prop where
  /-- Each placeholder has become the name of its number, and all else is as it was. -/
  text : named.text = rewritten nameFor text 0 (marks text)
  /-- The new text has no placeholder. -/
  silent : placeholders named.text = .ok []
  /-- There is one entry for each number, in the order in which the numbers come first. -/
  names : named.binds.map Prod.fst =
    numbers.eraseDups.map fun number => .text (bindName defaultStem number)
  /-- The name of a number stands for the parameter with that number. -/
  values : ∀ name value, Value.lookup? named.binds name = some value ↔
    ∃ number ∈ numbers, name = bindName defaultStem number ∧
      parameters[number - 1]? = some value

variable {text : List Char}

/-- The numbers of the placeholders of a text, read at its marks. -/
def markNumbers (text : List Char) : List Nat :=
  (marks text).map fun position => numberOf (dollarDigits (text.drop position))

/-- A text with short numerals is cut into placeholders with short numerals. -/
theorem short_of_marks
    (short : ∀ position ∈ marks text, (dollarDigits (text.drop position)).length ≤ maxDigits) :
    ∀ digits ∈ placeholderDigits text, digits.length ≤ maxDigits := by
  rw [placeholderDigits_eq]
  exact List.forall_mem_map.mpr short

theorem markNumbers_eq (text : List Char) :
    markNumbers text = (placeholderDigits text).map numberOf := by
  rw [placeholderDigits_eq, List.map_map]
  rfl

/-- Only numbers without a parameter keep a text from having its placeholders named. -/
theorem exists_unmatched_of_error
    (short : ∀ digits ∈ placeholderDigits text, digits.length ≤ maxDigits) {error : BindError}
    (failed : bindNames defaultStem text parameters = .error error) :
    ∃ number ∈ markNumbers text, IsUnmatched parameters number ∧
      error = .unmatched number parameters.length := by
  have stopped : (pieces text).mapM (Piece.named defaultStem parameters) = .error error := by
    rw [bindNames] at failed
    cases named : (pieces text).mapM (Piece.named defaultStem parameters) with
    | error other =>
        rw [named, error_bind] at failed
        exact congrArg Except.error (Except.error.inj failed)
    | ok named' =>
        rw [named] at failed
        contradiction
  obtain ⟨piece, member, refused⟩ := exists_of_mapM_eq_error stopped
  cases piece with
  | placeholder digits =>
      have counted : digits ∈ placeholderDigits text := List.mem_filterMap.mpr ⟨_, member, rfl⟩
      obtain ⟨unmatched, reason⟩ := (named_eq_error_iff (short digits counted)).mp refused
      rw [markNumbers_eq]
      exact ⟨_, List.mem_map_of_mem counted, unmatched, reason⟩
  | literal _ => contradiction
  | plain _ => contradiction

/-- The names and texts that the placeholders of a text are given. -/
theorem isOf_of_bindNames
    (short : ∀ digits ∈ placeholderDigits text, digits.length ≤ maxDigits) {named : NamedText}
    (done : bindNames defaultStem text parameters = .ok named) :
    named.IsOf text parameters (markNumbers text) ∧
      ∀ number ∈ markNumbers text, ¬IsUnmatched parameters number := by
  obtain ⟨namedPieces, traversed, made⟩ := bind_eq_ok_iff.mp done
  obtain rfl := pure_eq_ok_iff.mp made
  obtain ⟨texts, areEntries⟩ := named_pieces short (mapM_eq_ok_iff.mp traversed)
  rw [← placeholderDigits, ← markNumbers_eq] at areEntries
  have replaced : (NamedText.ofPieces namedPieces).text = rewritten nameFor text 0 (marks text) :=
    texts.trans (rewritten_marks nameFor text).symm
  have matched : ∀ number ∈ markNumbers text, ¬IsUnmatched parameters number := by
    intro number counted unmatched
    obtain ⟨entry, _, _, value⟩ := exists_of_mem_forall₂ areEntries.flip number counted
    rw [parameter?_eq_none_iff.mpr unmatched] at value
    contradiction
  refine ⟨⟨replaced, ?_, keys_dictOf areEntries, ?_⟩, matched⟩
  · rw [replaced]
    exact placeholders_rewritten text
  · intro name value
    refine (lookup?_dictOf_iff areEntries).trans ?_
    apply exists_congr
    intro number
    apply and_congr_right
    intro counted
    have positive : number ≠ 0 := fun isZero => matched number counted (.inl isZero)
    simp [parameter?_eq_some_iff, positive]

/--
Naming the placeholders of a text fails exactly if one of them has no parameter, and names
one that has none as the reason.  Otherwise each is replaced by the name of its number, all
else is copied, no placeholder is left, and the names stand for the parameters.
-/
theorem bindNames_of_short (parameters : List Value)
    (short : ∀ position ∈ marks text,
      (dollarDigits (text.drop position)).length ≤ maxDigits) :
    placeholders text = .ok (markNumbers text) ∧
      ((∃ error, bindNames defaultStem text parameters = .error error) ↔
        ∃ number ∈ markNumbers text, IsUnmatched parameters number) ∧
      (∀ error, bindNames defaultStem text parameters = .error error →
        ∃ number ∈ markNumbers text, IsUnmatched parameters number ∧
          error = .unmatched number parameters.length) ∧
      ∀ named, bindNames defaultStem text parameters = .ok named →
        named.IsOf text parameters (markNumbers text) := by
  have shortDigits := short_of_marks short
  refine ⟨placeholders_eq_ok short, ⟨?_, ?_⟩, ?_, ?_⟩
  · rintro ⟨error, failed⟩
    obtain ⟨number, counted, unmatched, _⟩ := exists_unmatched_of_error shortDigits failed
    exact ⟨number, counted, unmatched⟩
  · rintro ⟨number, counted, unmatched⟩
    cases done : bindNames defaultStem text parameters with
    | error error => exact ⟨error, rfl⟩
    | ok named => exact absurd unmatched ((isOf_of_bindNames shortDigits done).2 number counted)
  · intro error failed
    exact exists_unmatched_of_error shortDigits failed
  · intro named done
    exact (isOf_of_bindNames shortDigits done).1

/-- A literal, the same number in three spellings, and a quote that closes nothing. -/
def spelledText : List Char :=
  "'a''$9' $01 $٢ 'b $2 '' $1 $02".toList

theorem bindNames_of_short_spelled :
    (∀ position ∈ marks spelledText,
      (dollarDigits (spelledText.drop position)).length ≤ maxDigits) ∧
      placeholders spelledText = .ok [1, 2, 1, 2] ∧
      (∃ error, bindNames defaultStem spelledText [.text "x"] = .error error) ∧
      ∃ named, bindNames defaultStem spelledText [.text "x", .null] = .ok named ∧
        named.text = "'a''$9' :p1 :p2 'b $2 '' :p1 :p2".toList ∧
        named.binds.map Prod.fst = [.text "p1", .text "p2"] := by
  have short : ∀ position ∈ marks spelledText,
      (dollarDigits (spelledText.drop position)).length ≤ maxDigits := by decide +kernel
  have numbers : markNumbers spelledText = [1, 2, 1, 2] := by decide +kernel
  obtain ⟨counted, fails, _, _⟩ := bindNames_of_short [.text "x"] short
  obtain ⟨_, _, _, whole⟩ := bindNames_of_short [.text "x", .null] short
  have runs : (bindNames defaultStem spelledText [.text "x", .null]).isOk = true := by
    decide +kernel
  obtain ⟨named, done⟩ := exists_eq_ok_of_isOk runs
  have isOf := whole named done
  refine ⟨short, numbers ▸ counted, fails.mpr ⟨2, ?_, .inr (by decide)⟩, named, done, ?_, ?_⟩
  · rw [numbers]
    decide
  · rw [isOf.text]
    decide +kernel
  · rw [isOf.names, numbers]
    rfl

end RideQuery.Sql
