import RideQuery.Proofs.Text.Trim
import RideQuery.Sql.Placeholder

/-!
# Scanning for placeholders

The pieces of a text one after the other, and the placeholders that a text shows to
whatever may follow it.  A text shows its placeholders by itself if nothing behind it
can continue its last numeral or its last literal, so texts can be scanned part by part.
-/

namespace RideQuery.Sql

open RideQuery.Text RideQuery.Number

/-! ## Pieces without a limit -/

theorem literalRest_append {text inside left : List Char}
    (read : literalRest text = some (inside, left)) : inside ++ left = text := by
  fun_induction literalRest text generalizing inside left with
  | case1 => contradiction
  | case2 c isQuote =>
      cases read
      rfl
  | case3 => contradiction
  | case4 c d rest isQuote isDoubled rest' left' found inductionHypothesis =>
      cases read
      simp [inductionHypothesis found]
  | case5 c d rest isQuote isDoubled _ =>
      cases read
      rfl
  | case6 c d rest isQuote isSingle =>
      cases read
      rfl
  | case7 c d rest isOther inductionHypothesis =>
      obtain ⟨⟨inside', left'⟩, found, same⟩ := Option.map_eq_some_iff.mp read
      cases same
      simp [inductionHypothesis found]

theorem firstPiece_text_append (c : Char) (rest : List Char) :
    (firstPiece c rest).1.text ++ (firstPiece c rest).2 = c :: rest := by
  unfold firstPiece
  split
  · split
    · next inside left read => simp [Piece.text, literalRest_append read]
    · rfl
  · split
    · next isPlaceholder =>
        have isDollar : c = '$' := by simp_all
        simp [Piece.text, isDollar, List.takeWhile_append_dropWhile]
    · rfl

/-- Every piece takes at least one character. -/
theorem firstPiece_length (c : Char) (rest : List Char) :
    (firstPiece c rest).2.length ≤ rest.length := by
  have whole := congrArg List.length (firstPiece_text_append c rest)
  have taken : 1 ≤ (firstPiece c rest).1.text.length := by
    unfold firstPiece
    split
    · split <;> simp [Piece.text]
    · split <;> simp [Piece.text]
  simp only [List.length_append, List.length_cons] at whole
  omega

theorem piecesFrom_eq_pieces {limit : Nat} {text : List Char} (enough : text.length ≤ limit) :
    piecesFrom limit text = pieces text := by
  unfold pieces
  induction limit using Nat.strongRecOn generalizing text with
  | ind limit inductionHypothesis =>
      cases text with
      | nil => cases limit <;> rfl
      | cons c rest =>
          cases limit with
          | zero => simp at enough
          | succ limit =>
              have shorter := firstPiece_length c rest
              have fits : rest.length ≤ limit := by simpa using enough
              have leftFits := Nat.le_trans shorter fits
              simp only [piecesFrom, List.length_cons]
              rw [inductionHypothesis limit (Nat.lt_succ_self limit) leftFits]
              rw [inductionHypothesis rest.length (Nat.lt_succ_of_le fits) shorter]

@[simp]
theorem pieces_nil : pieces [] = [] :=
  rfl

theorem pieces_cons (c : Char) (rest : List Char) :
    pieces (c :: rest) = (firstPiece c rest).1 :: pieces (firstPiece c rest).2 := by
  change (firstPiece c rest).1 :: piecesFrom rest.length (firstPiece c rest).2 = _
  rw [piecesFrom_eq_pieces (firstPiece_length c rest)]

/-- The pieces of a text make it up. -/
theorem flatMap_text_pieces (text : List Char) : (pieces text).flatMap Piece.text = text := by
  generalize bound : text.length = length
  induction length using Nat.strongRecOn generalizing text with
  | ind length inductionHypothesis =>
      cases text with
      | nil => rfl
      | cons c rest =>
          have shorter := firstPiece_length c rest
          have below : (firstPiece c rest).2.length < length := by
            rw [List.length_cons] at bound
            omega
          rw [pieces_cons, List.flatMap_cons, inductionHypothesis _ below _ rfl]
          exact firstPiece_text_append c rest

/-! ## Texts that show nothing -/

/-- Characters that begin neither a placeholder nor a literal. -/
def IsInert (c : Char) : Prop :=
  c ≠ singleQuote ∧ c ≠ '$'

instance (c : Char) : Decidable (IsInert c) :=
  inferInstanceAs (Decidable (_ ∧ _))

theorem firstPiece_of_isInert {c : Char} (inert : IsInert c) (rest : List Char) :
    firstPiece c rest = (.plain c, rest) := by
  simp [firstPiece, inert.1, inert.2]

theorem pieces_append_of_isInert {text : List Char} (inert : ∀ c ∈ text, IsInert c)
    (rest : List Char) : pieces (text ++ rest) = text.map Piece.plain ++ pieces rest := by
  induction text with
  | nil => rfl
  | cons c text inductionHypothesis =>
      obtain ⟨first, others⟩ := List.forall_mem_cons.mp inert
      rw [List.cons_append, pieces_cons, firstPiece_of_isInert first,
        inductionHypothesis others]
      rfl

/-! ## Literals and placeholders -/

/-- Texts that continue neither a numeral nor a literal in front of them. -/
def Separates (text : List Char) : Prop :=
  ∀ c ∈ text.head?, c ≠ singleQuote ∧ isDecimalDigit c = false

instance (text : List Char) : Decidable (Separates text) :=
  Option.decidableForallMem
    (p := fun c => c ≠ singleQuote ∧ isDecimalDigit c = false) text.head?

theorem separates_nil : Separates [] := by
  simp [Separates]

theorem separates_append {text rest : List Char} (first : Separates text)
    (second : Separates rest) : Separates (text ++ rest) := by
  cases text with
  | nil => exact second
  | cons c text => exact first

theorem literalRest_of_separates {inside rest : List Char} (unquoted : singleQuote ∉ inside)
    (separates : Separates rest) :
    literalRest (inside ++ singleQuote :: rest) = some (inside ++ [singleQuote], rest) := by
  induction inside with
  | nil =>
      cases rest with
      | nil => rfl
      | cons d rest =>
          have other : d ≠ singleQuote := (separates d (by simp)).1
          simp [literalRest, other]
  | cons c inside inductionHypothesis =>
      rw [List.mem_cons, not_or] at unquoted
      have other : c ≠ singleQuote := fun same => unquoted.1 same.symm
      cases inside with
      | nil => simpa [literalRest, other] using inductionHypothesis (by simp)
      | cons d inside => simpa [literalRest, other] using inductionHypothesis unquoted.2

theorem pieces_literal {inside rest : List Char} (unquoted : singleQuote ∉ inside)
    (separates : Separates rest) :
    pieces (singleQuote :: (inside ++ singleQuote :: rest)) =
      .literal (singleQuote :: (inside ++ [singleQuote])) :: pieces rest := by
  rw [pieces_cons, firstPiece, literalRest_of_separates unquoted separates]
  rfl

theorem pieces_placeholder {digits rest : List Char} (nonempty : digits ≠ [])
    (decimal : ∀ c ∈ digits, isDecimalDigit c = true) (separates : Separates rest) :
    pieces ('$' :: (digits ++ rest)) = .placeholder digits :: pieces rest := by
  obtain ⟨taken, dropped⟩ :=
    takeWhile_append_of_all decimal fun c member => (separates c member).2
  have opens : ((digits ++ rest).head?.map isDecimalDigit).getD false = true := by
    cases digits with
    | nil => contradiction
    | cons c digits => simpa using decimal c List.mem_cons_self
  rw [pieces_cons, firstPiece, if_neg (by decide), if_pos (by simpa using opens), taken, dropped]

end RideQuery.Sql
