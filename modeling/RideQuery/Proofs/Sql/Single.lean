import RideQuery.Proofs.Fallible
import RideQuery.Proofs.Sql.Guard

/-!
# Single statements

A text is a single statement if nothing but semicolons and blanks follows any of its
semicolons, those in literals apart.  Trimming neither makes nor breaks one.  A limit
that is added to a trimmed text breaks it exactly if there is a semicolon left for it
to stand behind.
-/

namespace RideQuery.Sql

open RideQuery.Text RideQuery.Number

/-! ## Text that shows nothing, behind other text -/

theorem literalRest_of_unquoted {text : List Char} (unquoted : singleQuote ∉ text) :
    literalRest text = none := by
  induction text with
  | nil => rfl
  | cons c text inductionHypothesis =>
      rw [List.mem_cons, not_or] at unquoted
      have other : c ≠ singleQuote := Ne.symm unquoted.1
      cases text with
      | nil => simp [literalRest, other]
      | cons d text => simp [literalRest, other, inductionHypothesis unquoted.2]

theorem literalRest_append_of_unquoted {tail : List Char} (unquoted : singleQuote ∉ tail)
    (text : List Char) :
    literalRest (text ++ tail) =
      (literalRest text).map fun (inside, left) => (inside, left ++ tail) := by
  have nothing := literalRest_of_unquoted unquoted
  fun_induction literalRest text with
  | case1 => exact nothing
  | case2 c isQuote =>
      cases tail with
      | nil => simp [literalRest, isQuote]
      | cons d tail =>
          have other : d ≠ singleQuote := fun same => unquoted (by simp [same])
          simp_all [literalRest]
  | case3 c notQuote =>
      cases tail with
      | nil => simp [literalRest, notQuote]
      | cons d tail => simp_all [literalRest]
  | case4 c d rest isQuote isDoubled inside left found inductionHypothesis =>
      simp_all [literalRest]
  | case5 c d rest isQuote isDoubled found inductionHypothesis =>
      simp_all [literalRest]
  | case6 c d rest isQuote isSingle => simp_all [literalRest]
  | case7 c d rest isOther inductionHypothesis => simp_all [literalRest, Function.comp_def]

theorem takeWhile_append_of_head {p : Char → Bool} {tail : List Char}
    (stops : ∀ c ∈ tail.head?, p c = false) (text : List Char) :
    (text ++ tail).takeWhile p = text.takeWhile p ∧
      (text ++ tail).dropWhile p = text.dropWhile p ++ tail := by
  induction text with
  | nil =>
      cases tail with
      | nil => simp
      | cons c tail => simp [stops c (by simp)]
  | cons c text inductionHypothesis =>
      by_cases taken : p c = true
      · simpa [taken] using inductionHypothesis
      · simp [taken]

/-- The first piece of a text ends in front of text that shows nothing. -/
theorem firstPiece_append {tail : List Char} (inert : Inert tail) (separates : Separates tail)
    (c : Char) (rest : List Char) :
    firstPiece c (rest ++ tail) = ((firstPiece c rest).1, (firstPiece c rest).2 ++ tail) := by
  have unquoted : singleQuote ∉ tail := fun member => (inert _ member).1 rfl
  have noDigit : ∀ d ∈ tail.head?, isDecimalDigit d = false := fun d member =>
    (separates d member).2
  unfold firstPiece
  rw [literalRest_append_of_unquoted unquoted]
  split
  · cases literalRest rest <;> rfl
  · obtain ⟨digits, left⟩ := takeWhile_append_of_head noDigit rest
    have opens : ((rest ++ tail).head?.map isDecimalDigit).getD false =
        (rest.head?.map isDecimalDigit).getD false := by
      cases rest with
      | nil =>
          cases tail with
          | nil => rfl
          | cons d tail => simpa using noDigit d rfl
      | cons d rest => rfl
    rw [opens, digits, left]
    split <;> rfl

/-- Text that shows nothing leaves the pieces in front of it as they are. -/
theorem pieces_append_of_separates {tail : List Char} (inert : Inert tail)
    (separates : Separates tail) (text : List Char) :
    pieces (text ++ tail) = pieces text ++ tail.map Piece.plain := by
  -- A piece can take up any part of the text, so the induction is on its length.
  generalize bound : text.length = length
  induction length using Nat.strongRecOn generalizing text with
  | ind length inductionHypothesis =>
      cases text with
      | nil =>
          have alone := pieces_append_of_isInert inert []
          simpa using alone
      | cons c rest =>
          have below : (firstPiece c rest).2.length < length := by
            have shorter := firstPiece_length c rest
            rw [List.length_cons] at bound
            omega
          rw [List.cons_append, pieces_cons, firstPiece_append inert separates, pieces_cons,
            inductionHypothesis _ below _ rfl]
          rfl

/-! ## Ends of statements -/

/-- Pieces that may stand behind the end of a statement: semicolons and blanks. -/
def Piece.IsEnding : Piece → Prop
  | .plain c => c = ';' ∨ isBlank c = true
  | _ => False

/-- Pieces in which only endings follow a semicolon. -/
def EndOnce (pieces : List Piece) : Prop :=
  ∀ front back, pieces = front ++ .plain ';' :: back → ∀ piece ∈ back, piece.IsEnding

/-- Texts in which only semicolons and blanks follow a semicolon outside literals. -/
def IsSingle (text : List Char) : Prop :=
  EndOnce (pieces text)

theorem endOnce_append_iff {ends : List Piece} (ending : ∀ piece ∈ ends, piece.IsEnding)
    (front : List Piece) : EndOnce (front ++ ends) ↔ EndOnce front := by
  constructor
  · rintro once before back rfl piece member
    apply once before (back ++ ends) (by simp) piece
    exact List.mem_append_left ends member
  · intro once before back same piece member
    rcases List.append_eq_append_iff.mp same with ⟨between, rfl, split⟩ | ⟨between, rfl, split⟩
    · apply ending piece
      rw [split]
      simp [member]
    · cases between with
      | nil =>
          apply ending piece
          rw [List.nil_append] at split
          simp [← split, member]
      | cons first between =>
          obtain ⟨rfl, rfl⟩ := List.cons.inj split
          rcases List.mem_append.mp member with inside | behind
          · exact once before between rfl piece inside
          · exact ending piece behind

/-- What comes in front of every semicolon does not matter. -/
theorem endOnce_cons_iff {first : Piece} (other : first ≠ .plain ';') (rest : List Piece) :
    EndOnce (first :: rest) ↔ EndOnce rest := by
  constructor
  · rintro once front back rfl
    exact once (first :: front) back rfl
  · intro once front back same
    cases front with
    | nil => exact absurd (List.cons.inj same).1 other
    | cons piece front => exact once front back (List.cons.inj same).2

/-- Pieces of which some are no endings may only follow pieces without a semicolon. -/
theorem endOnce_append_iff_not_mem {tail : List Piece} (free : .plain ';' ∉ tail)
    (more : ∃ piece ∈ tail, ¬piece.IsEnding) (front : List Piece) :
    EndOnce (front ++ tail) ↔ .plain ';' ∉ front := by
  obtain ⟨piece, member, notEnding⟩ := more
  constructor
  · intro once semicolon
    obtain ⟨before, behind, rfl⟩ := List.append_of_mem semicolon
    apply notEnding
    apply once before (behind ++ tail) (by simp) piece
    exact List.mem_append_right behind member
  · intro none before back same
    have semicolon : .plain ';' ∈ front ++ tail := by simp [same]
    rcases List.mem_append.mp semicolon with inside | inside
    · exact absurd inside none
    · exact absurd inside free

/-! ## Trimmed statements -/

theorem isInert_of_isBlank {c : Char} (blank : isBlank c = true) : IsInert c := by
  constructor <;> rintro rfl <;> contradiction

theorem isDecimalDigit_of_isBlank {c : Char} (blank : isBlank c = true) :
    isDecimalDigit c = false := by
  cases digit : isDecimalDigit c with
  | false => rfl
  | true =>
      have solid := isBlank_of_isDigitLike (isDigitLike_of_isDecimalDigit digit)
      rw [blank] at solid
      contradiction

/-- Blanks in front of a text and endings behind it do not make a statement of it. -/
theorem isSingle_framed_iff {front ends : List Char} (blanks : ∀ c ∈ front, isBlank c = true)
    (endings : ∀ c ∈ ends, c = ';' ∨ isBlank c = true) (text : List Char) :
    IsSingle (front ++ (text ++ ends)) ↔ IsSingle text := by
  have endsInert : Inert ends := by
    intro c member
    rcases endings c member with rfl | blank
    · decide
    · exact isInert_of_isBlank blank
  have endsSeparate : Separates ends := by
    intro c first
    have member := List.mem_of_mem_head? first
    refine ⟨(endsInert c member).1, ?_⟩
    rcases endings c member with rfl | blank
    · decide
    · exact isDecimalDigit_of_isBlank blank
  rw [IsSingle, IsSingle, pieces_append_of_isInert fun c member =>
    isInert_of_isBlank (blanks c member), pieces_append_of_separates endsInert endsSeparate]
  have behind : ∀ piece ∈ ends.map Piece.plain, piece.IsEnding := by simpa [Piece.IsEnding]
  induction front with
  | nil => exact endOnce_append_iff behind (pieces text)
  | cons c front inductionHypothesis =>
      obtain ⟨blank, others⟩ := List.forall_mem_cons.mp blanks
      have other : Piece.plain c ≠ .plain ';' := by
        rintro ⟨⟩
        contradiction
      rw [List.map_cons, List.cons_append, endOnce_cons_iff other]
      exact inductionHypothesis others

/-- Trimming takes blanks off the front of a text, and semicolons and blanks off its end. -/
theorem exists_append_trimStatement (text : List Char) :
    ∃ front ends, text = front ++ (trimStatement text ++ ends) ∧
      (∀ c ∈ front, isBlank c = true) ∧ ∀ c ∈ ends, c = ';' ∨ isBlank c = true := by
  obtain ⟨front, blanks, whole, frontBlank, endBlank⟩ := exists_append_stripWhile isBlank text
  obtain ⟨semicolons, trimmed, dropped⟩ := exists_dropRightWhile_append (· == ';') (trim text)
  refine ⟨front, semicolons ++ blanks, ?_, frontBlank, ?_⟩
  · rw [trimStatement, ← List.append_assoc (dropRightWhile _ _), ← trimmed]
    exact whole
  · intro c member
    rcases List.mem_append.mp member with inside | inside
    · exact .inl (by simpa using dropped c inside)
    · exact .inr (endBlank c inside)

/-- A text is a single statement exactly if it is one when it is trimmed. -/
theorem isSingle_trimStatement_iff (text : List Char) :
    IsSingle (trimStatement text) ↔ IsSingle text := by
  obtain ⟨front, ends, whole, blanks, endings⟩ := exists_append_trimStatement text
  have framed := isSingle_framed_iff blanks endings (trimStatement text)
  rw [← whole] at framed
  exact framed.symm

/-! ## Limited statements -/

/-- Whether a text is given a limit on the number of its rows. -/
def IsLimited (limit : Option Int) (text : List Char) : Prop :=
  (∃ rows ∈ limit, rows ≠ 0) ∧ hasLimit text = false

theorem exists_limitClause {limit : Int} {clause : List Char}
    (written : limitClause limit = .ok clause) :
    ∃ rows, clause = " LIMIT ".toList ++ rows ∧ Solid rows := by
  rw [limitClause] at written
  obtain ⟨rows, numeral, same⟩ := bind_eq_ok_iff.mp written
  exact ⟨rows.toList, (pure_eq_ok_iff.mp same).symm,
    solid_of_numberText (numberText_of_writeInteger numeral)⟩

/-- A limit that is added may only stand behind text without a semicolon. -/
theorem isSingle_append_limitClause {limit : Int} {clause : List Char}
    (written : limitClause limit = .ok clause) (text : List Char) :
    IsSingle (text ++ clause) ↔ .plain ';' ∉ pieces text := by
  obtain ⟨rows, rfl, solid⟩ := exists_limitClause written
  have inert : Inert (" LIMIT ".toList ++ rows) :=
    List.forall_mem_append.mpr ⟨by decide, solid.inert⟩
  have free : ';' ∉ " LIMIT ".toList ++ rows := by
    intro member
    rcases List.mem_append.mp member with inside | inside
    · exact absurd inside (by decide)
    · exact (solid.2 ';' inside).2.2 rfl
  have separates : Separates (" LIMIT ".toList ++ rows) := by
    intro c first
    obtain rfl : ' ' = c := Option.some.inj first
    decide
  rw [IsSingle, pieces_append_of_separates inert separates]
  apply endOnce_append_iff_not_mem
  · simpa using free
  · exact ⟨.plain 'L', by simp, by simp [Piece.IsEnding]; decide⟩

/-- Only a limit that is added changes a trimmed text. -/
theorem statementOf_cases {limit : Option Int} {text statement : List Char}
    (made : statementOf limit text = .ok statement) :
    (¬ IsLimited limit (trimStatement text) ∧ statement = trimStatement text) ∨
      (IsLimited limit (trimStatement text) ∧ ∃ rows clause, limitClause rows = .ok clause ∧
        statement = trimStatement text ++ clause) := by
  unfold statementOf withLimit at made
  cases limit with
  | none =>
      cases made
      exact .inl ⟨by simp [IsLimited], rfl⟩
  | some rows =>
      simp only at made
      split at made
      · rename_i unlimited
        cases made
        refine .inl ⟨?_, rfl⟩
        rintro ⟨⟨other, same, nonzero⟩, bare⟩
        obtain rfl := Option.mem_some_iff.mp same
        simp [nonzero, bare] at unlimited
      · rename_i limited
        simp only [Bool.or_eq_true, decide_eq_true_eq, not_or, Bool.not_eq_true] at limited
        obtain ⟨clause, written, same⟩ := bind_eq_ok_iff.mp made
        exact .inr ⟨⟨⟨rows, rfl, limited.1⟩, limited.2⟩, rows, clause, written,
          (pure_eq_ok_iff.mp same).symm⟩

/-- A statement is single exactly if its text is, and no semicolon is left in front of a limit. -/
theorem isSingle_statementOf_iff {limit : Option Int} {text statement : List Char}
    (made : statementOf limit text = .ok statement) :
    IsSingle statement ↔
      IsSingle text ∧
        (IsLimited limit (trimStatement text) → .plain ';' ∉ pieces (trimStatement text)) := by
  rcases statementOf_cases made with ⟨unlimited, rfl⟩ | ⟨limited, rows, clause, written, rfl⟩
  · rw [isSingle_trimStatement_iff]
    simp [unlimited]
  · rw [isSingle_append_limitClause written, ← isSingle_trimStatement_iff text]
    constructor
    · intro free
      refine ⟨?_, fun _ => free⟩
      intro front back same
      rw [same] at free
      simp at free
    · rintro ⟨_, free⟩
      exact free limited

end RideQuery.Sql
