import RideQuery.Proofs.Json.Token

/-!
# Texts between quotation marks

Between its marks a text has characters that stand for themselves and escapes: a letter, or the
four digits of a code, behind a backslash.  These are exactly the texts that are read, whether
two of their codes are joined to one character or not.
-/

namespace RideQuery.Json

open RideQuery.Text

/-! ## Codes -/

/-- Hexadecimal digits. -/
def IsHex (c : Char) : Prop :=
  ('0' ≤ c ∧ c ≤ '9') ∨ ('a' ≤ c ∧ c ≤ 'f') ∨ ('A' ≤ c ∧ c ≤ 'F')

instance (c : Char) : Decidable (IsHex c) :=
  inferInstanceAs (Decidable (_ ∨ _ ∨ _))

theorem isHex_iff {c : Char} : IsHex c ↔ ∃ value, hexValue? c = some value := by
  rw [IsHex, hexValue?]
  split
  · simp_all
  · split
    · simp_all
    · split <;> simp_all

/-- The digits of a code are read whatever follows them. -/
theorem exists_readUnit? {a b c d : Char} (codes : ∀ e ∈ [a, b, c, d], IsHex e)
    (rest : List Char) : ∃ unit, readUnit? (a :: b :: c :: d :: rest) = some (unit, rest) := by
  simp only [List.forall_mem_cons, isHex_iff] at codes
  obtain ⟨⟨i, first⟩, ⟨j, second⟩, ⟨k, third⟩, ⟨l, fourth⟩, _⟩ := codes
  have valued : [a, b, c, d].mapM hexValue? = some [i, j, k, l] := by
    simp [first, second, third, fourth]
  exact ⟨_, by rw [readUnit?, valued]; rfl⟩

/-- What is read as a code are four digits. -/
theorem exists_of_readUnit? {text rest : List Char} {unit : Nat}
    (read : readUnit? text = some (unit, rest)) :
    ∃ a b c d, text = a :: b :: c :: d :: rest ∧ ∀ e ∈ [a, b, c, d], IsHex e := by
  unfold readUnit? at read
  split at read
  · rename_i a b c d left
    obtain ⟨digits, valued, whole⟩ := Option.bind_eq_some_iff.mp read
    obtain rfl := (Prod.mk.inj (Option.some.inj whole)).2
    simp only [List.mapM_cons, List.mapM_nil, Option.bind_eq_bind, Option.bind_eq_some_iff]
      at valued
    obtain ⟨_, first, _, ⟨_, second, _, ⟨_, third, _, ⟨_, fourth, _⟩, _⟩, _⟩, _⟩ := valued
    refine ⟨a, b, c, d, rfl, ?_⟩
    simp only [List.forall_mem_cons, isHex_iff]
    exact ⟨⟨_, first⟩, ⟨_, second⟩, ⟨_, third⟩, ⟨_, fourth⟩, by simp⟩
  · contradiction

/-! ## Quotations -/

/-- The letters that may stand behind a backslash. -/
def escapeLetters : List Char :=
  ['"', '\\', '/', 'b', 'f', 'n', 'r', 't']

theorem mem_escapeLetters_iff {c : Char} :
    c ∈ escapeLetters ↔ ∃ meant, shortChar? c = some meant := by
  constructor
  · intro member
    have all : ∀ c ∈ escapeLetters, (shortChar? c).isSome = true := by decide
    exact Option.isSome_iff_exists.mp (all c member)
  · rintro ⟨meant, short⟩
    by_contra unknown
    simp only [escapeLetters, List.mem_cons, List.not_mem_nil, or_false, not_or] at unknown
    simp [shortChar?, unknown] at short

/-- What stands behind an opening mark, up to and with the closing one. -/
inductive IsQuotation : List Char → Prop
  | close : IsQuotation ['"']
  | plain {c : Char} {rest : List Char} (visible : IsVisible c) (mark : c ≠ '"')
      (backslash : c ≠ '\\') (behind : IsQuotation rest) : IsQuotation (c :: rest)
  | letter {c : Char} {rest : List Char} (letter : c ∈ escapeLetters)
      (behind : IsQuotation rest) : IsQuotation ('\\' :: c :: rest)
  | code {a b c d : Char} {rest : List Char} (codes : ∀ e ∈ [a, b, c, d], IsHex e)
      (behind : IsQuotation rest) : IsQuotation ('\\' :: 'u' :: a :: b :: c :: d :: rest)

/-! ## Escapes -/

theorem isQuotation_of_readUnit? {text rest : List Char} {unit : Nat}
    (read : readUnit? text = some (unit, rest)) {behind left : List Char}
    (split : rest = behind ++ left) (quotation : IsQuotation behind) :
    ∃ span, '\\' :: 'u' :: text = span ++ left ∧ IsQuotation span := by
  obtain ⟨a, b, c, d, rfl, codes⟩ := exists_of_readUnit? read
  exact ⟨_, by rw [split]; rfl, .code codes quotation⟩

theorem exists_of_readLow? {text left : List Char} {low : Nat}
    (read : readLow? text = some (low, left)) :
    ∃ rest, text = '\\' :: 'u' :: rest ∧ readUnit? rest = some (low, left) := by
  unfold readLow? at read
  split at read
  · rename_i rest
    refine ⟨rest, rfl, ?_⟩
    split at read
    · rename_i unit others second
      split at read
      · obtain ⟨rfl, rfl⟩ := Prod.mk.inj (Option.some.inj read)
        exact second
      · contradiction
    · contradiction
  · contradiction

/-- The code of an escape, and perhaps another code that is joined to it. -/
theorem readUnicode?_cases {text rest : List Char} {meant : Letter}
    (read : readUnicode? text = some (meant, rest)) :
    ∃ unit left, readUnit? text = some (unit, left) ∧
      (left = rest ∨ ∃ low, readLow? left = some (low, rest)) := by
  unfold readUnicode? at read
  split at read
  · contradiction
  · rename_i unit left first
    refine ⟨unit, left, first, ?_⟩
    split at read
    · split at read
      · rename_i low others second
        obtain rfl := (Prod.mk.inj (Option.some.inj read)).2
        exact .inr ⟨low, second⟩
      · exact .inl (Prod.mk.inj (Option.some.inj read)).2
    · exact .inl (Prod.mk.inj (Option.some.inj read)).2

/-- An escape in front of a quotation is a quotation, be it one code or two. -/
theorem isQuotation_of_readEscape? {text rest : List Char} {meant : Letter}
    (read : readEscape? text = some (meant, rest)) {behind left : List Char}
    (split : rest = behind ++ left) (quotation : IsQuotation behind) :
    ∃ span, '\\' :: text = span ++ left ∧ IsQuotation span := by
  unfold readEscape? at read
  split at read
  · rename_i text
    obtain ⟨unit, between, first, same | ⟨low, second⟩⟩ := readUnicode?_cases read
    · exact isQuotation_of_readUnit? first (same.trans split) quotation
    · obtain ⟨inner, escape, code⟩ := exists_of_readLow? second
      obtain ⟨span, whole, joined⟩ := isQuotation_of_readUnit? code split quotation
      exact isQuotation_of_readUnit? first (escape.trans whole) joined
  · rename_i c others _
    obtain ⟨own, short, whole⟩ := Option.map_eq_some_iff.mp read
    obtain rfl := (Prod.mk.inj whole).2
    exact ⟨_, by rw [split]; rfl, .letter (mem_escapeLetters_iff.mpr ⟨own, short⟩) quotation⟩
  · contradiction

/-! ## Reading quotations -/

/-- What is read as a text is a quotation. -/
theorem exists_of_readTextFrom {fuel : Nat} {text rest : List Char} {letters : List Letter}
    (read : readTextFrom fuel text = some (letters, rest)) :
    ∃ span, text = span ++ rest ∧ IsQuotation span := by
  induction fuel generalizing text letters with
  | zero => contradiction
  | succ fuel inductionHypothesis =>
      cases text with
      | nil => contradiction
      | cons c text =>
          rw [readTextFrom] at read
          split at read
          · rename_i mark
            rw [beq_iff_eq] at mark
            obtain rfl := (Prod.mk.inj (Option.some.inj read)).2
            exact ⟨['"'], by rw [mark]; rfl, .close⟩
          · rename_i noMark
            split at read
            · rename_i backslash
              rw [beq_iff_eq] at backslash
              split at read
              · rename_i meant left escape
                obtain ⟨⟨others, behind⟩, later, whole⟩ := Option.map_eq_some_iff.mp read
                obtain rfl := (Prod.mk.inj whole).2
                obtain ⟨span, split, quotation⟩ := inductionHypothesis later
                rw [backslash]
                exact isQuotation_of_readEscape? escape split quotation
              · contradiction
            · rename_i noBackslash
              split at read
              · contradiction
              · rename_i visible
                obtain ⟨⟨others, behind⟩, later, whole⟩ := Option.map_eq_some_iff.mp read
                obtain rfl := (Prod.mk.inj whole).2
                obtain ⟨span, split, quotation⟩ := inductionHypothesis later
                rw [beq_iff_eq] at noMark noBackslash
                exact ⟨c :: span, by rw [split]; rfl,
                  .plain (Char.not_lt.mp visible) noMark noBackslash quotation⟩

/-- A code that is joined to another one begins the quotation behind the other one. -/
theorem exists_of_readLow?_append {behind rest left : List Char} {low : Nat}
    (quotation : IsQuotation behind) (read : readLow? (behind ++ rest) = some (low, left)) :
    ∃ inner, left = inner ++ rest ∧ IsQuotation inner ∧ inner.length ≤ behind.length := by
  obtain ⟨text, escape, code⟩ := exists_of_readLow? read
  obtain ⟨a, b, c, d, rfl, _⟩ := exists_of_readUnit? code
  cases quotation with
  | close => exact absurd (List.cons.inj escape).1 (by decide)
  | plain _ _ backslash _ => exact absurd (List.cons.inj escape).1 backslash
  | letter letter _ =>
      rw [(List.cons.inj (List.cons.inj escape).2).1] at letter
      exact absurd letter (by decide)
  | @code _ _ _ _ inner _ quotation =>
      simp only [List.cons_append, List.cons.injEq] at escape
      exact ⟨inner, escape.2.2.2.2.2.2.symm, quotation, by simp only [List.length_cons]; omega⟩

/-- A code in front of a quotation is read, perhaps with one that begins the quotation. -/
theorem exists_readUnicode? {a b c d : Char} (codes : ∀ e ∈ [a, b, c, d], IsHex e)
    {behind : List Char} (quotation : IsQuotation behind) (rest : List Char) :
    ∃ meant inner, readUnicode? (a :: b :: c :: d :: (behind ++ rest)) =
      some (meant, inner ++ rest) ∧ IsQuotation inner ∧ inner.length ≤ behind.length := by
  obtain ⟨unit, first⟩ := exists_readUnit? codes (behind ++ rest)
  rw [readUnicode?, first]
  dsimp only
  split
  · cases second : readLow? (behind ++ rest) with
    | none => exact ⟨_, behind, rfl, quotation, le_rfl⟩
    | some found =>
        obtain ⟨low, left⟩ := found
        obtain ⟨inner, rfl, shorter⟩ := exists_of_readLow?_append quotation second
        exact ⟨_, inner, rfl, shorter⟩
  · exact ⟨_, behind, rfl, quotation, le_rfl⟩

theorem readEscape?_of_mem_escapeLetters {c : Char} (letter : c ∈ escapeLetters)
    (text : List Char) : ∃ meant, readEscape? (c :: text) = some (meant, text) := by
  obtain ⟨meant, short⟩ := mem_escapeLetters_iff.mp letter
  refine ⟨.char meant, ?_⟩
  unfold readEscape?
  split
  · rename_i same
    rw [(List.cons.inj same).1] at letter
    exact absurd letter (by decide)
  · rename_i same
    obtain ⟨rfl, rfl⟩ := List.cons.inj same
    rw [short]
    rfl
  · contradiction

theorem readTextFrom_of_readEscape? {fuel : Nat} {text left rest : List Char} {meant : Letter}
    {letters : List Letter} (escape : readEscape? text = some (meant, left))
    (read : readTextFrom fuel left = some (letters, rest)) :
    readTextFrom (fuel + 1) ('\\' :: text) = some (meant :: letters, rest) := by
  rw [readTextFrom, if_neg (by decide), if_pos (by decide), escape]
  dsimp only
  rw [read]
  rfl

/-- A quotation is read as a text, whatever follows it. -/
theorem exists_readTextFrom {fuel : Nat} {span : List Char} (quotation : IsQuotation span)
    (enough : span.length ≤ fuel) (rest : List Char) :
    ∃ letters, readTextFrom fuel (span ++ rest) = some (letters, rest) := by
  induction fuel generalizing span with
  | zero =>
      cases List.length_eq_zero_iff.mp (Nat.le_zero.mp enough)
      cases quotation
  | succ fuel inductionHypothesis =>
      cases quotation with
      | close => exact ⟨[], rfl⟩
      | @plain c span visible mark backslash behind =>
          obtain ⟨letters, read⟩ := inductionHypothesis behind (Nat.le_of_succ_le_succ enough)
          refine ⟨.char c :: letters, ?_⟩
          rw [List.cons_append, readTextFrom, read]
          simp [mark, backslash, Char.not_lt.mpr visible]
      | @letter c span letter behind =>
          rw [List.length_cons, List.length_cons] at enough
          obtain ⟨letters, read⟩ := inductionHypothesis behind (by omega)
          obtain ⟨meant, escape⟩ := readEscape?_of_mem_escapeLetters letter (span ++ rest)
          exact ⟨meant :: letters, readTextFrom_of_readEscape? escape read⟩
      | @code a b c d span codes behind =>
          simp only [List.length_cons] at enough
          obtain ⟨meant, inner, unicode, quotation, shorter⟩ :=
            exists_readUnicode? codes behind rest
          obtain ⟨letters, read⟩ := inductionHypothesis quotation (by omega)
          exact ⟨meant :: letters, readTextFrom_of_readEscape? unicode read⟩

end RideQuery.Json
