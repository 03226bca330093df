import RideQuery.Proofs.Sql.Shown
import RideQuery.Proofs.Sql.Single

/-!
# Quoting

A literal ends with the first quote behind its opening one that is not doubled.  If only
doubled quotes follow, it ends within the last pair of them, and the other quote of that pair
opens nothing.  So a character is inside a literal exactly if an odd number of quotes comes
before it and some quote comes after it, which the placeholders of a text can be told by
without taking the text to pieces.
-/

namespace RideQuery.Sql

open RideQuery.Text RideQuery.Number

/-! ## Ends of literals -/

/-- What a literal has behind its opening quote: doubled quotes, other characters, an end. -/
inductive ClosesLiteral : List Char → Prop
  | close : ClosesLiteral [singleQuote]
  | doubled {inside : List Char} (closes : ClosesLiteral inside) :
      ClosesLiteral (singleQuote :: singleQuote :: inside)
  | other {c : Char} {inside : List Char} (unquoted : c ≠ singleQuote)
      (closes : ClosesLiteral inside) : ClosesLiteral (c :: inside)

/-- Texts in front of which a literal ends: a quote that they begin with is their only one. -/
def EndsLiteral (text : List Char) : Prop :=
  ∀ rest, text = singleQuote :: rest → singleQuote ∉ rest

theorem endsLiteral_of_ne {c : Char} (unquoted : c ≠ singleQuote) (rest : List Char) :
    EndsLiteral (c :: rest) := by
  rintro _ ⟨⟩
  contradiction

/-- A literal is closed whenever a quote follows. -/
theorem exists_literalRest {text : List Char} (quoted : singleQuote ∈ text) :
    ∃ inside left, literalRest text = some (inside, left) := by
  fun_induction literalRest text with
  | case1 => contradiction
  | case2 c isQuote => exact ⟨_, _, rfl⟩
  | case3 c notQuote => simp_all
  | case4 c d rest isQuote isDoubled inside left found _ => exact ⟨_, _, rfl⟩
  | case5 c d rest isQuote isDoubled _ _ => exact ⟨_, _, rfl⟩
  | case6 c d rest isQuote isSingle => exact ⟨_, _, rfl⟩
  | case7 c d rest notQuote inductionHypothesis =>
      have other : singleQuote ≠ c := by
        rintro rfl
        exact notQuote rfl
      have behind : singleQuote ∈ d :: rest := by simpa [other] using quoted
      obtain ⟨inside, left, found⟩ := inductionHypothesis behind
      exact ⟨c :: inside, left, by rw [found]; rfl⟩

namespace ClosesLiteral

variable {inside : List Char}

theorem quote_mem (closes : ClosesLiteral inside) : singleQuote ∈ inside := by
  induction closes with
  | close => exact List.mem_cons_self
  | doubled _ _ => exact List.mem_cons_self
  | other _ _ inductionHypothesis => exact List.mem_cons_of_mem _ inductionHypothesis

/-- Behind its opening quote, a literal has an odd number of quotes. -/
theorem count_quote (closes : ClosesLiteral inside) : inside.count singleQuote % 2 = 1 := by
  induction closes with
  | close => rfl
  | doubled _ inductionHypothesis =>
      rw [List.count_cons_self, List.count_cons_self]
      omega
  | other unquoted _ inductionHypothesis =>
      rwa [List.count_cons_of_ne unquoted]

/-- Between any other character and the opening quote, the quotes stand in pairs. -/
theorem inside_of_ne (closes : ClosesLiteral inside) {front back : List Char} {c : Char}
    (split : inside = front ++ c :: back) (unquoted : c ≠ singleQuote) :
    front.count singleQuote % 2 = 0 ∧ singleQuote ∈ back := by
  induction closes generalizing front with
  | close =>
      cases front with
      | nil => exact absurd (List.cons.inj split).1.symm unquoted
      | cons d front => simp at split
  | @doubled inside closes inductionHypothesis =>
      match front with
      | [] => exact absurd (List.cons.inj split).1.symm unquoted
      | [d] => exact absurd (List.cons.inj (List.cons.inj split).2).1.symm unquoted
      | d :: e :: front =>
          simp only [List.cons_append, List.cons.injEq] at split
          obtain ⟨rfl, rfl, behind⟩ := split
          obtain ⟨paired, follows⟩ := inductionHypothesis behind
          refine ⟨?_, follows⟩
          rw [List.count_cons_self, List.count_cons_self]
          omega
  | @other d inside different closes inductionHypothesis =>
      cases front with
      | nil =>
          obtain ⟨rfl, rfl⟩ := List.cons.inj split
          exact ⟨rfl, closes.quote_mem⟩
      | cons e front =>
          obtain ⟨rfl, rest⟩ := List.cons.inj split
          rw [List.count_cons_of_ne different]
          exact inductionHypothesis rest

end ClosesLiteral

/-- What is read as the rest of a literal closes it, and what is left lets it end. -/
theorem closesLiteral_of_literalRest {text inside left : List Char}
    (read : literalRest text = some (inside, left)) :
    ClosesLiteral inside ∧ EndsLiteral left := by
  fun_induction literalRest text generalizing inside left with
  | case1 => contradiction
  | case2 c isQuote =>
      obtain rfl := beq_iff_eq.mp isQuote
      cases read
      refine ⟨.close, ?_⟩
      rintro _ ⟨⟩
  | case3 => contradiction
  | case4 c d rest isQuote isDoubled inside' left' found inductionHypothesis =>
      obtain rfl := beq_iff_eq.mp isQuote
      obtain rfl := beq_iff_eq.mp isDoubled
      cases read
      obtain ⟨closes, ends⟩ := inductionHypothesis found
      exact ⟨.doubled closes, ends⟩
  | case5 c d rest isQuote isDoubled none =>
      obtain rfl := beq_iff_eq.mp isQuote
      obtain rfl := beq_iff_eq.mp isDoubled
      cases read
      refine ⟨.close, ?_⟩
      rintro _ ⟨⟩ quoted
      obtain ⟨inside, left, found⟩ := exists_literalRest quoted
      rw [none] at found
      contradiction
  | case6 c d rest isQuote isSingle =>
      obtain rfl := beq_iff_eq.mp isQuote
      cases read
      exact ⟨.close, endsLiteral_of_ne (fun same => isSingle (beq_iff_eq.mpr same)) rest⟩
  | case7 c d rest notQuote inductionHypothesis =>
      obtain ⟨⟨inside', left'⟩, found, same⟩ := Option.map_eq_some_iff.mp read
      cases same
      obtain ⟨closes, ends⟩ := inductionHypothesis found
      exact ⟨.other (fun same => notQuote (beq_iff_eq.mpr same)) closes, ends⟩

/-! ## Scans -/

/-- Texts without a digit at their head. -/
def EndsNumeral (text : List Char) : Prop :=
  ∀ c ∈ text.head?, isDecimalDigit c = false

/-- How a text is cut into pieces. -/
inductive Scans : List Char → List Piece → Prop
  | nil : Scans [] []
  | literal {inside left : List Char} {pieces : List Piece} (closes : ClosesLiteral inside)
      (ends : EndsLiteral left) (rest : Scans left pieces) :
      Scans (singleQuote :: (inside ++ left)) (.literal (singleQuote :: inside) :: pieces)
  | quote {left : List Char} {pieces : List Piece} (last : singleQuote ∉ left)
      (rest : Scans left pieces) : Scans (singleQuote :: left) (.plain singleQuote :: pieces)
  | placeholder {digits left : List Char} {pieces : List Piece} (nonempty : digits ≠ [])
      (decimal : ∀ c ∈ digits, isDecimalDigit c = true) (ends : EndsNumeral left)
      (rest : Scans left pieces) :
      Scans ('$' :: (digits ++ left)) (.placeholder digits :: pieces)
  | plain {c : Char} {left : List Char} {pieces : List Piece} (unquoted : c ≠ singleQuote)
      (bare : c = '$' → EndsNumeral left) (rest : Scans left pieces) :
      Scans (c :: left) (.plain c :: pieces)

theorem endsNumeral_dropWhile (text : List Char) :
    EndsNumeral (text.dropWhile isDecimalDigit) := by
  intro c first
  have stops := List.head?_dropWhile_not isDecimalDigit text
  rw [Option.mem_def.mp first] at stops
  simpa using stops

theorem opensNumeral_iff (text : List Char) :
    (text.head?.map isDecimalDigit).getD false = false ↔ EndsNumeral text := by
  cases text <;> simp [EndsNumeral]

/-- The first piece of a text stands in front of a scan of what it leaves. -/
theorem scans_cons {c : Char} {rest : List Char} {pieces : List Piece}
    (scan : Scans (firstPiece c rest).2 pieces) :
    Scans (c :: rest) ((firstPiece c rest).1 :: pieces) := by
  revert scan
  unfold firstPiece
  split
  · rename_i isQuote
    obtain rfl := beq_iff_eq.mp isQuote
    split
    · rename_i inside left read
      intro scan
      obtain ⟨closes, ends⟩ := closesLiteral_of_literalRest read
      rw [← literalRest_append read]
      exact .literal closes ends scan
    · rename_i none
      intro scan
      refine .quote ?_ scan
      -- Any quote behind this one would have closed a literal.
      intro quoted
      obtain ⟨inside, left, found⟩ := exists_literalRest quoted
      rw [none] at found
      contradiction
  · rename_i notQuote
    have unquoted : c ≠ singleQuote := fun same => notQuote (beq_iff_eq.mpr same)
    split
    · rename_i opens
      intro scan
      obtain ⟨isDollar, digit⟩ := Bool.and_eq_true_iff.mp opens
      obtain rfl := beq_iff_eq.mp isDollar
      have some : rest.takeWhile isDecimalDigit ≠ [] := by
        cases rest with
        | nil => contradiction
        | cons d rest => simpa using digit
      have decimal : ∀ d ∈ rest.takeWhile isDecimalDigit, isDecimalDigit d = true :=
        List.all_eq_true.mp List.all_takeWhile
      have whole := Scans.placeholder some decimal (endsNumeral_dropWhile rest) scan
      rwa [List.takeWhile_append_dropWhile] at whole
    · rename_i bare
      intro scan
      refine .plain unquoted ?_ scan
      rintro rfl
      rw [← opensNumeral_iff]
      simpa using bare

/-- The pieces of a text are a scan of it. -/
theorem scans_pieces (text : List Char) : Scans text (pieces text) := by
  generalize bound : text.length = length
  induction length using Nat.strongRecOn generalizing text with
  | ind length inductionHypothesis =>
      cases text with
      | nil => exact .nil
      | cons c rest =>
          have shorter := Nat.lt_succ_of_le (firstPiece_length c rest)
          rw [pieces_cons]
          exact scans_cons (inductionHypothesis _ (bound ▸ shorter) _ rfl)

/-! ## Marks -/

/-- The digits that directly follow the dollar sign at the head of a text, if there is one. -/
def dollarDigits : List Char → List Char
  | [] => []
  | c :: rest => if c = '$' then rest.takeWhile isDecimalDigit else []

/-- Whether text behind some quotes is outside literals: those quotes close each other, or
nothing is left to close the last of them. -/
def IsOutside (quotes : Nat) (text : List Char) : Prop :=
  quotes % 2 = 0 ∨ singleQuote ∉ text

instance (quotes : Nat) (text : List Char) : Decidable (IsOutside quotes text) :=
  inferInstanceAs (Decidable (_ ∨ _))

/-- The positions of the placeholders of a text that comes behind some quotes. -/
def marksBehind (quotes : Nat) (text : List Char) : List Nat :=
  (List.range text.length).filter fun position =>
    dollarDigits (text.drop position) ≠ [] ∧
      IsOutside (quotes + (text.take position).count singleQuote) (text.drop position)

/-- The positions at which the placeholders of a text begin. -/
def marks (text : List Char) : List Nat :=
  marksBehind 0 text

/-- The positions at which the placeholders among some pieces begin. -/
def offsets : List Piece → List Nat
  | [] => []
  | piece :: rest =>
    (if piece.digits?.isSome then [0] else []) ++ (offsets rest).map (piece.text.length + ·)

@[simp]
theorem dollarDigits_cons_of_ne {c : Char} (other : c ≠ '$') (rest : List Char) :
    dollarDigits (c :: rest) = [] := by
  rw [dollarDigits, if_neg other]

theorem dollarDigits_placeholder {digits left : List Char}
    (decimal : ∀ c ∈ digits, isDecimalDigit c = true) (ends : EndsNumeral left) :
    dollarDigits ('$' :: (digits ++ left)) = digits := by
  rw [dollarDigits, if_pos rfl]
  exact (takeWhile_append_of_all decimal ends).1

theorem dollarDigits_bare {c : Char} {left : List Char} (bare : c = '$' → EndsNumeral left) :
    dollarDigits (c :: left) = [] := by
  by_cases isDollar : c = '$'
  · subst isDollar
    have none : ∀ c ∈ ([] : List Char), isDecimalDigit c = true := nofun
    exact dollarDigits_placeholder none (bare rfl)
  · exact dollarDigits_cons_of_ne isDollar left

/-- Marks of a text are those of its first part, and those of the rest further on. -/
theorem marksBehind_append (quotes : Nat) (text left : List Char) :
    marksBehind quotes (text ++ left) =
      ((List.range text.length).filter fun position =>
        dollarDigits (text.drop position ++ left) ≠ [] ∧
          IsOutside (quotes + (text.take position).count singleQuote)
            (text.drop position ++ left)) ++
      (marksBehind (quotes + text.count singleQuote) left).map (text.length + ·) := by
  rw [marksBehind, List.length_append, List.range_add, List.filter_append, List.filter_map]
  congr 1
  · apply List.filter_congr
    intro position inside
    have within : position ≤ text.length := Nat.le_of_lt (List.mem_range.mp inside)
    rw [List.drop_append_of_le_length within, List.take_append_of_le_length within]
  · rw [marksBehind]
    congr 1
    apply List.filter_congr
    intro position _
    simp [List.drop_length_add_append, List.take_length_add_append, Nat.add_assoc]

/-- Behind a piece, positions are counted from its end. -/
theorem map_drop_offsets {α : Type} (image : List Char → α) (piece : Piece) (pieces : List Piece)
    (left : List Char) :
    (offsets (piece :: pieces)).map (fun position => image ((piece.text ++ left).drop position)) =
      (if piece.digits?.isSome then [image (piece.text ++ left)] else []) ++
        (offsets pieces).map fun position => image (left.drop position) := by
  rw [offsets, List.map_append, List.map_map]
  congr 1
  · split <;> simp
  · simp [Function.comp_def, List.drop_length_add_append]

/-- Texts in which no position is that of a placeholder, whatever comes before or behind. -/
theorem marksBehind_of_bare (quotes : Nat) (piece left : List Char)
    (bare : ∀ position < piece.length, dollarDigits (piece.drop position ++ left) ≠ [] →
      ¬IsOutside (quotes + (piece.take position).count singleQuote)
        (piece.drop position ++ left)) :
    marksBehind quotes (piece ++ left) =
      (marksBehind (quotes + piece.count singleQuote) left).map (piece.length + ·) := by
  rw [marksBehind_append, List.filter_eq_nil_iff.mpr, List.nil_append]
  intro position inside
  rw [decide_eq_true_eq, not_and]
  exact bare position (List.mem_range.mp inside)

/-- No placeholder begins within a literal. -/
theorem ClosesLiteral.marksBehind_append {inside : List Char} (closes : ClosesLiteral inside)
    {quotes : Nat} (even : quotes % 2 = 0) (left : List Char) :
    marksBehind quotes (singleQuote :: inside ++ left) =
      (marksBehind (quotes + (singleQuote :: inside).count singleQuote) left).map
        ((singleQuote :: inside).length + ·) := by
  apply marksBehind_of_bare
  intro position within marked
  cases position with
  | zero => exact absurd (dollarDigits_cons_of_ne (by decide) _) marked
  | succ position =>
      have bound : position < inside.length := Nat.lt_of_succ_lt_succ within
      rw [List.drop_succ_cons, List.drop_eq_getElem_cons bound] at marked ⊢
      have unquoted : inside[position] ≠ singleQuote := by
        intro same
        rw [same] at marked
        exact marked (dollarDigits_cons_of_ne (by decide) _)
      have split : inside =
          inside.take position ++ inside[position] :: inside.drop (position + 1) := by
        rw [← List.drop_eq_getElem_cons bound, List.take_append_drop]
      obtain ⟨paired, follows⟩ := closes.inside_of_ne split unquoted
      rw [List.take_succ_cons, List.count_cons_self]
      rintro (outside | last)
      · omega
      · exact last (List.mem_append_left left (List.mem_cons_of_mem _ follows))

/-- A character that is not a dollar sign with digits behind it is no placeholder. -/
theorem marksBehind_cons {c : Char} {left : List Char} (bare : dollarDigits (c :: left) = [])
    (quotes : Nat) :
    marksBehind quotes (c :: left) =
      (marksBehind (quotes + [c].count singleQuote) left).map (1 + ·) := by
  apply marksBehind_of_bare quotes [c] left
  intro position within marked
  obtain rfl : position = 0 := Nat.lt_one_iff.mp within
  exact absurd bare marked

theorem marksBehind_placeholder {quotes : Nat} {digits left : List Char} (nonempty : digits ≠ [])
    (decimal : ∀ c ∈ digits, isDecimalDigit c = true) (ends : EndsNumeral left)
    (outside : IsOutside quotes ('$' :: (digits ++ left))) :
    marksBehind quotes ('$' :: (digits ++ left)) =
      0 :: (marksBehind quotes left).map (digits.length + 1 + ·) := by
  have unquoted : singleQuote ∉ digits := fun member =>
    absurd (decimal singleQuote member) (by decide)
  have undollared : ∀ c ∈ digits, c ≠ '$' := by
    rintro _ member rfl
    exact absurd (decimal '$' member) (by decide)
  have own : dollarDigits ('$' :: (digits ++ left)) ≠ [] := by
    rwa [dollarDigits_placeholder decimal ends]
  have rest : marksBehind quotes (digits ++ left) =
      (marksBehind quotes left).map (digits.length + ·) := by
    have bare := marksBehind_of_bare quotes digits left <| by
      intro position within marked
      rw [List.drop_eq_getElem_cons within] at marked
      exact absurd (dollarDigits_cons_of_ne (undollared _ (List.getElem_mem within)) _) marked
    rwa [List.count_eq_zero.mpr unquoted] at bare
  have first := marksBehind_append quotes ['$'] (digits ++ left)
  have counted : ['$'].count singleQuote = 0 := rfl
  rw [counted, Nat.add_zero, rest, List.map_map] at first
  rw [← List.singleton_append, first]
  simp [List.range_succ, own, outside, Function.comp_def]
  omega

namespace Scans

variable {text : List Char} {pieces : List Piece}

/-- The digits of the placeholders of a scan stand behind the positions of its placeholders. -/
theorem map_dollarDigits (scan : Scans text pieces) :
    (offsets pieces).map (fun position => dollarDigits (text.drop position)) =
      pieces.filterMap Piece.digits? := by
  induction scan with
  | nil => rfl
  | @literal inside left pieces _ _ _ inductionHypothesis =>
      have step := map_drop_offsets dollarDigits (.literal (singleQuote :: inside)) pieces left
      rw [inductionHypothesis] at step
      exact step
  | @quote left pieces _ _ inductionHypothesis =>
      have step := map_drop_offsets dollarDigits (.plain singleQuote) pieces left
      rw [inductionHypothesis] at step
      exact step
  | @placeholder digits left pieces _ decimal ends _ inductionHypothesis =>
      have step := map_drop_offsets dollarDigits (.placeholder digits) pieces left
      have own : dollarDigits ((Piece.placeholder digits).text ++ left) = digits :=
        dollarDigits_placeholder decimal ends
      rw [inductionHypothesis, own] at step
      exact step
  | @plain c left pieces _ _ _ inductionHypothesis =>
      have step := map_drop_offsets dollarDigits (.plain c) pieces left
      rw [inductionHypothesis] at step
      exact step

theorem marksBehind_eq (scan : Scans text pieces) {quotes : Nat}
    (outside : IsOutside quotes text) : marksBehind quotes text = offsets pieces := by
  induction scan generalizing quotes with
  | nil => rfl
  | @literal inside left pieces closes _ _ inductionHypothesis =>
      -- The text begins with a quote, so only the first way to be outside is left.
      have even : quotes % 2 = 0 := by simpa [IsOutside] using outside
      have behind : IsOutside (quotes + (singleQuote :: inside).count singleQuote) left := by
        have odd := closes.count_quote
        left
        rw [List.count_cons_self]
        omega
      have step := closes.marksBehind_append even left
      rw [inductionHypothesis behind] at step
      exact step
  | @quote left pieces last _ inductionHypothesis =>
      have none : dollarDigits (singleQuote :: left) = [] :=
        dollarDigits_cons_of_ne (by decide) left
      rw [marksBehind_cons none, inductionHypothesis (.inr last)]
      rfl
  | @placeholder digits left pieces nonempty decimal ends _ inductionHypothesis =>
      have behind : IsOutside quotes left := by
        apply outside.imp_right
        intro unquoted member
        exact unquoted (List.mem_cons_of_mem _ (List.mem_append_right digits member))
      rw [marksBehind_placeholder nonempty decimal ends outside, inductionHypothesis behind]
      rfl
  | @plain c left pieces unquoted bare _ inductionHypothesis =>
      have behind : IsOutside (quotes + [c].count singleQuote) left := by
        rw [List.count_singleton, if_neg (by simpa using unquoted)]
        exact outside.imp_right fun none member => none (List.mem_cons_of_mem c member)
      rw [marksBehind_cons (dollarDigits_bare bare), inductionHypothesis behind]
      rfl

/-- The placeholders of a scan begin at the marks of its text. -/
theorem marks_eq (scan : Scans text pieces) : marks text = offsets pieces :=
  scan.marksBehind_eq (.inl rfl)

end Scans

/-- The digits of the placeholders of a text stand behind its marks. -/
theorem placeholderDigits_eq (text : List Char) :
    placeholderDigits text =
      (marks text).map fun position => dollarDigits (text.drop position) := by
  have scan := scans_pieces text
  rw [scan.marks_eq, scan.map_dollarDigits, placeholderDigits]

/-- However a text is scanned, its placeholders are the same. -/
theorem Scans.placeholderDigits_eq {text : List Char} {pieces : List Piece}
    (scan : Scans text pieces) : placeholderDigits text = pieces.filterMap Piece.digits? := by
  rw [Sql.placeholderDigits_eq, scan.marks_eq, scan.map_dollarDigits]

/-! ## Numbers -/

/-- The number that the digits of a placeholder stand for. -/
def numberOf (digits : List Char) : Nat :=
  ofDigits (digits.filterMap digitValue?)

theorem placeholderNumber_of_short {digits : List Char} (short : digits.length ≤ maxDigits) :
    placeholderNumber digits = .ok (numberOf digits) := by
  rw [placeholderNumber, if_neg (Nat.not_lt.mpr short)]
  rfl

/-- The numbers of a text are those behind its marks. -/
theorem placeholders_eq_ok {text : List Char}
    (short : ∀ position ∈ marks text,
      (dollarDigits (text.drop position)).length ≤ maxDigits) :
    placeholders text =
      .ok ((marks text).map fun position => numberOf (dollarDigits (text.drop position))) := by
  have read : ∀ digits ∈ placeholderDigits text,
      placeholderNumber digits = .ok (numberOf digits) := by
    intro digits member
    rw [placeholderDigits_eq] at member
    obtain ⟨position, marked, rfl⟩ := List.mem_map.mp member
    exact placeholderNumber_of_short (short position marked)
  rw [placeholders, ← placeholderDigits, mapM_eq_ok_map read, placeholderDigits_eq, List.map_map]
  rfl

/-- If the quotes of a text close each other, those in front of a position tell whether it is
inside a literal. -/
theorem marks_of_even {text : List Char} (even : text.count singleQuote % 2 = 0) :
    marks text = (List.range text.length).filter fun position =>
      dollarDigits (text.drop position) ≠ [] ∧
        (text.take position).count singleQuote % 2 = 0 := by
  apply List.filter_congr
  intro position _
  rw [Nat.zero_add, decide_eq_decide]
  have whole : (text.take position).count singleQuote +
      (text.drop position).count singleQuote = text.count singleQuote := by
    rw [← List.count_append, List.take_append_drop]
  constructor
  · rintro ⟨marked, paired | last⟩
    · exact ⟨marked, paired⟩
    · rw [List.count_eq_zero.mpr last] at whole
      exact ⟨marked, by omega⟩
  · rintro ⟨marked, paired⟩
    exact ⟨marked, .inl paired⟩

/--
In a text whose quotes close each other, the placeholders are the runs of digits directly
behind those dollar signs that an even number of quotes comes before.
-/
theorem placeholders_of_even {text : List Char} (even : text.count singleQuote % 2 = 0)
    (short : ∀ position < text.length,
      (dollarDigits (text.drop position)).length ≤ maxDigits) :
    placeholders text =
      .ok (((List.range text.length).filter fun position =>
          dollarDigits (text.drop position) ≠ [] ∧
            (text.take position).count singleQuote % 2 = 0).map fun position =>
        numberOf (dollarDigits (text.drop position))) := by
  rw [← marks_of_even even]
  apply placeholders_eq_ok
  intro position marked
  exact short position (List.mem_range.mp (List.mem_filter.mp marked).1)

/-- Doubled quotes, a literal of quotes only, a doubled dollar sign and a foreign digit. -/
def quotedText : List Char :=
  "a = $1 AND b = 'it''s $2' AND c = '''' || $$٣".toList

theorem placeholders_of_even_quoted :
    quotedText.count singleQuote % 2 = 0 ∧
      (∀ position < quotedText.length,
        (dollarDigits (quotedText.drop position)).length ≤ maxDigits) ∧
      placeholders quotedText = .ok [1, 3] := by
  have even : quotedText.count singleQuote % 2 = 0 := by decide
  have short : ∀ position < quotedText.length,
      (dollarDigits (quotedText.drop position)).length ≤ maxDigits := by decide +kernel
  refine ⟨even, short, ?_⟩
  rw [placeholders_of_even even short]
  decide +kernel

end RideQuery.Sql
