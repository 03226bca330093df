import Mathlib.Data.List.Forall2
import RideQuery.Proofs.Text.Case
import RideQuery.Text.Search

/-!
# Searching a text

A recogniser that is searched for answers somewhere in the text.  A word is met where
the text goes on with letters that each stand for one of its own.
-/

namespace RideQuery.Text

/-! ## Texts in texts -/

theorem occursIn_iff {part whole : List Char} : occursIn part whole = true ↔ part <:+: whole := by
  induction whole with
  | nil => simp [occursIn]
  | cons c whole inductionHypothesis =>
      rw [occursIn, Bool.or_eq_true, inductionHypothesis, List.isPrefixOf_iff_prefix,
        List.infix_cons_iff]

/-- Of two ways to split a text, the first ends before the second begins, or they overlap. -/
theorem apart_or_overlap {front back before behind : List Char}
    (same : front ++ back = before ++ behind) :
    (∃ between, before = front ++ between ∧ back = between ++ behind) ∨
      ∃ shared ≠ [], front = before ++ shared ∧ behind = shared ++ back := by
  obtain apart | ⟨shared, front_eq, behind_eq⟩ := List.append_eq_append_iff.mp same
  · exact .inl apart
  · by_cases none : shared = []
    · subst none
      exact .inl ⟨[], by simpa using front_eq.symm, by simpa using behind_eq.symm⟩
    · exact .inr ⟨shared, none, front_eq, behind_eq⟩

/-! ## Searches -/

variable {α : Type} {recognise : Recogniser α} {before : Option Char} {text : List Char}

theorem getLast?_cons_or (c : Char) (front : List Char) :
    (c :: front).getLast?.or before = front.getLast?.or (some c) := by
  rw [List.getLast?_cons]
  cases front.getLast? <;> rfl

/-- A search finds what is recognised at the leftmost place where anything is. -/
theorem findFirst_eq_some_iff {found : α} :
    findFirst recognise before text = some found ↔
      ∃ front rest, text = front ++ rest ∧ recognise (front.getLast?.or before) rest = some found ∧
        ∀ earlier left, text = earlier ++ left → earlier.length < front.length →
          recognise (earlier.getLast?.or before) left = none := by
  induction text generalizing before with
  | nil =>
      constructor
      · intro search
        exact ⟨[], [], rfl, search, fun _ _ _ shorter => absurd shorter (Nat.not_lt_zero _)⟩
      · rintro ⟨front, rest, same, recognised, _⟩
        obtain ⟨rfl, rfl⟩ := List.append_eq_nil_iff.mp same.symm
        exact recognised
  | cons c text inductionHypothesis =>
      rw [findFirst]
      cases here : recognise before (c :: text) with
      | some other =>
          constructor
          · intro search
            exact ⟨[], c :: text, rfl, here.trans search,
              fun _ _ _ shorter => absurd shorter (Nat.not_lt_zero _)⟩
          · rintro ⟨front, rest, same, recognised, first⟩
            cases front with
            | nil =>
                obtain rfl : c :: text = rest := same
                exact here.symm.trans recognised
            | cons d front =>
                have nothing := first [] (c :: text) rfl (Nat.zero_lt_succ _)
                exact absurd (here.symm.trans nothing) (Option.some_ne_none _)
      | none =>
          change findFirst recognise (some c) text = some found ↔ _
          rw [inductionHypothesis]
          constructor
          · rintro ⟨front, rest, rfl, recognised, first⟩
            refine ⟨c :: front, rest, rfl, by rwa [getLast?_cons_or], ?_⟩
            intro earlier left same shorter
            rcases List.cons_eq_append_iff.mp same with ⟨rfl, rfl⟩ | ⟨behind, rfl, split⟩
            · exact here
            · rw [getLast?_cons_or]
              exact first behind left split (Nat.lt_of_succ_lt_succ shorter)
          · rintro ⟨front, rest, same, recognised, first⟩
            rcases List.cons_eq_append_iff.mp same with ⟨rfl, rfl⟩ | ⟨behind, rfl, split⟩
            · exact absurd (recognised.symm.trans here) (Option.some_ne_none _)
            · rw [getLast?_cons_or] at recognised
              refine ⟨behind, rest, split, recognised, ?_⟩
              intro earlier left apart shorter
              rw [← getLast?_cons_or]
              exact first (c :: earlier) left (congrArg (c :: ·) apart) (Nat.succ_lt_succ shorter)

/-- What a search finds was recognised at some place. -/
theorem exists_of_findFirst {found : α} (search : findFirst recognise before text = some found) :
    ∃ before' text', recognise before' text' = some found := by
  rcases findFirst_eq_some_iff.mp search with ⟨front, rest, _, recognised, _⟩
  exact ⟨_, rest, recognised⟩

theorem isSome_findFirst_iff :
    (findFirst recognise before text).isSome = true ↔
      ∃ front rest, text = front ++ rest ∧
        (recognise (front.getLast?.or before) rest).isSome = true := by
  induction text generalizing before with
  | nil =>
      constructor
      · intro some
        exact ⟨[], [], rfl, some⟩
      · rintro ⟨front, rest, same, some⟩
        obtain ⟨rfl, rfl⟩ := List.append_eq_nil_iff.mp same.symm
        exact some
  | cons c text inductionHypothesis =>
      rw [findFirst]
      cases here : recognise before (c :: text) with
      | some found =>
          simp only [Option.isSome_some, true_iff]
          exact ⟨[], c :: text, rfl, Option.isSome_iff_exists.mpr ⟨found, here⟩⟩
      | none =>
          change (findFirst recognise (some c) text).isSome = true ↔ _
          rw [inductionHypothesis]
          constructor
          · rintro ⟨front, rest, rfl, some⟩
            exact ⟨c :: front, rest, rfl, by rwa [getLast?_cons_or]⟩
          · rintro ⟨front, rest, same, some⟩
            rcases List.cons_eq_append_iff.mp same with ⟨rfl, rfl⟩ | ⟨behind, rfl, split⟩
            · rw [List.getLast?_nil, Option.none_or, here] at some
              contradiction
            · exact ⟨behind, rest, split, by rwa [← getLast?_cons_or]⟩

/--
Where the parts of a text are just what a recogniser answers to, a search finds the part
that begins furthest in front.
-/
theorem findFirst_eq_some_iff_of_parts {Part : Type} (front : Part → List Char)
    (value : Part → α)
    (recognised : ∀ part, ∃ rest, text = front part ++ rest ∧
      recognise (front part).getLast? rest = some (value part))
    (exists_part : ∀ earlier rest found, text = earlier ++ rest →
      recognise earlier.getLast? rest = some found →
        ∃ part, front part = earlier ∧ value part = found) {found : α} :
    findFirst recognise none text = some found ↔
      ∃ part, (∀ other, (front part).length ≤ (front other).length) ∧ value part = found := by
  rw [findFirst_eq_some_iff]
  simp only [Option.or_none]
  constructor
  · rintro ⟨earlier, rest, same, here, first⟩
    rcases exists_part earlier rest found same here with ⟨part, rfl, rfl⟩
    refine ⟨part, ?_, rfl⟩
    intro other
    by_contra shorter
    rcases recognised other with ⟨left, split, there⟩
    have nothing := first (front other) left split (Nat.lt_of_not_le shorter)
    exact absurd (nothing.symm.trans there) (Option.some_ne_none _).symm
  · rintro ⟨part, first, rfl⟩
    rcases recognised part with ⟨rest, same, here⟩
    refine ⟨front part, rest, same, here, ?_⟩
    intro earlier left split shorter
    rw [Option.eq_none_iff_forall_ne_some]
    intro other there
    rcases exists_part earlier left other split there with ⟨other, rfl, _⟩
    exact absurd (first other) (Nat.not_le_of_lt shorter)

/-! ## Words up to case -/

/-- A spelling of a word, letter by letter and up to case. -/
def Spells (word written : List Char) : Prop :=
  List.Forall₂ (fun letter c => foldsTo letter c = true) word written

/-- The letters outside ASCII that stand for one inside. -/
def foldingLetters : List Char := ['ſ', '\u212A', 'İ', 'ı']

/-- A letter is met as itself, as a capital, or as one of the letters outside ASCII. -/
theorem eq_or_mem_of_foldsTo {letter c : Char} (folds : foldsTo letter c = true) :
    c = letter ∨ c = letter.toUpper ∨ c ∈ foldingLetters := by
  simp only [foldsTo, Bool.or_eq_true, Bool.and_eq_true, beq_iff_eq] at folds
  rcases folds with (((rfl | rfl) | ⟨_, rfl⟩) | ⟨_, rfl⟩) | ⟨_, rfl | rfl⟩
  · exact .inl rfl
  · exact .inr (.inl rfl)
  all_goals exact .inr (.inr (by decide))

/-- What holds of every form of the letters of a word holds of each spelling of it. -/
theorem forall_of_spells {holds : Char → Prop} {word written : List Char}
    (spells : Spells word written)
    (letters : ∀ letter ∈ word, holds letter ∧ holds letter.toUpper)
    (foreign : ∀ c ∈ foldingLetters, holds c) : ∀ c ∈ written, holds c := by
  induction spells with
  | nil => simp
  | cons folds _ inductionHypothesis =>
      rw [List.forall_mem_cons] at letters ⊢
      refine ⟨?_, inductionHypothesis letters.2⟩
      rcases eq_or_mem_of_foldsTo folds with rfl | rfl | other
      · exact letters.1.1
      · exact letters.1.2
      · exact foreign _ other

/-- In ASCII, a spelling of a word in small letters is the word itself, up to case. -/
theorem map_toLower_of_spells {word written : List Char} (spells : Spells word written)
    (letters : ∀ letter ∈ word, letter.toLower = letter ∧ letter.toUpper.toLower = letter)
    (ascii : IsAscii written) : written.map Char.toLower = word := by
  have foreign : ∀ c ∈ foldingLetters, ¬c.toNat < 128 := by decide
  induction spells with
  | nil => rfl
  | cons folds _ inductionHypothesis =>
      rw [List.forall_mem_cons] at letters
      rw [IsAscii, List.forall_mem_cons] at ascii
      rw [List.map_cons, inductionHypothesis letters.2 ascii.2]
      congr 1
      rcases eq_or_mem_of_foldsTo folds with rfl | rfl | other
      · exact letters.1.1
      · exact letters.1.2
      · exact absurd ascii.1 (foreign _ other)

/-! ## Boundaries -/

/-- In front of a word, a boundary is where nothing of a word comes before. -/
theorem boundaryAt_of_head? {rest : List Char} (inside : isWordAt rest.head? = true) :
    boundaryAt before rest = true ↔ isWordAt before = false := by
  rw [boundaryAt, inside]
  cases isWordAt before <;> decide

/-- Behind a word, a boundary is where nothing of a word follows. -/
theorem boundaryAt_of_isWordAt {rest : List Char} (inside : isWordAt before = true) :
    boundaryAt before rest = true ↔ isWordAt rest.head? = false := by
  rw [boundaryAt, inside]
  cases isWordAt rest.head? <;> decide

/-- A word is followed by a boundary where nothing of a word follows. -/
theorem boundaryAt_getLast? {word : List Char} (nonempty : word ≠ [])
    (inside : ∀ c ∈ word, isWordChar c = true) (rest : List Char) :
    boundaryAt word.getLast? rest = true ↔ isWordAt rest.head? = false := by
  apply boundaryAt_of_isWordAt
  rw [List.getLast?_eq_getLast_of_ne_nil nonempty]
  exact inside _ (List.getLast_mem nonempty)

/-! ## Words in a text -/

theorem dropExact_eq_some_iff {word text left : List Char} :
    dropExact word text = some left ↔ text = word ++ left := by
  rw [dropExact]
  constructor
  · intro dropped
    split at dropped
    · rename_i ahead
      rcases List.isPrefixOf_iff_prefix.mp ahead with ⟨behind, rfl⟩
      rw [List.drop_left, Option.some.injEq] at dropped
      rw [dropped]
    · contradiction
  · rintro rfl
    rw [if_pos (List.isPrefixOf_iff_prefix.mpr (List.prefix_append ..)), List.drop_left]

theorem dropFolded_eq_some_iff {word text written left : List Char} :
    dropFolded word text = some (written, left) ↔
      Spells word written ∧ text = written ++ left := by
  induction word generalizing text written left with
  | nil =>
      simp only [dropFolded, Option.some.injEq, Prod.mk.injEq, Spells, List.forall₂_nil_left_iff]
      constructor
      · rintro ⟨rfl, rfl⟩
        exact ⟨rfl, rfl⟩
      · rintro ⟨rfl, same⟩
        exact ⟨rfl, same⟩
  | cons letter word inductionHypothesis =>
      cases text with
      | nil =>
          simp only [dropFolded, reduceCtorEq, false_iff]
          rintro ⟨spells, same⟩
          rcases spells with _ | ⟨_, _⟩
          simp at same
      | cons c text =>
          rw [dropFolded]
          constructor
          · intro dropped
            split at dropped
            · rename_i fold
              obtain ⟨⟨rest, left'⟩, restDropped, done⟩ := Option.map_eq_some_iff.mp dropped
              obtain ⟨rfl, rfl⟩ := Prod.mk.inj done
              obtain ⟨spells, rfl⟩ := inductionHypothesis.mp restDropped
              exact ⟨.cons fold spells, rfl⟩
            · contradiction
          · rintro ⟨spells, same⟩
            cases spells with
            | @cons _ d _ rest fold spells =>
                obtain ⟨rfl, rest_eq⟩ := List.cons.inj same
                rw [if_pos fold, inductionHypothesis.mpr ⟨spells, rest_eq⟩]
                rfl

theorem exists_of_dropWord {vocabulary : List String} {text written left : List Char}
    (dropped : dropWord vocabulary text = some (written, left)) :
    ∃ word ∈ vocabulary, dropFolded word.toList text = some (written, left) ∧
      boundaryAt written.getLast? left = true := by
  obtain ⟨word, member, found⟩ := List.exists_of_findSome?_eq_some dropped
  split at found
  · rename_i written' left' here
    split at found
    · rename_i boundary
      obtain ⟨rfl, rfl⟩ := Prod.mk.inj (Option.some.inj found)
      exact ⟨word, member, here, boundary⟩
    · contradiction
  · contradiction

theorem isSome_dropWord_iff {vocabulary : List String} {text : List Char} :
    (dropWord vocabulary text).isSome = true ↔
      ∃ word ∈ vocabulary, ∃ written left, Spells word.toList written ∧
        text = written ++ left ∧ boundaryAt written.getLast? left = true := by
  constructor
  · intro found
    obtain ⟨⟨written, left⟩, dropped⟩ := Option.isSome_iff_exists.mp found
    obtain ⟨word, member, folded, boundary⟩ := exists_of_dropWord dropped
    obtain ⟨spells, same⟩ := dropFolded_eq_some_iff.mp folded
    exact ⟨word, member, written, left, spells, same, boundary⟩
  · rintro ⟨word, member, written, left, spells, same, boundary⟩
    rw [dropWord, List.findSome?_isSome_iff]
    refine ⟨word, member, ?_⟩
    rw [dropFolded_eq_some_iff.mpr ⟨spells, same⟩]
    simp [boundary]

/-- A word stands alone in a text where it is spelled between two boundaries. -/
theorem hasWord_iff {vocabulary : List String} :
    hasWord vocabulary text = true ↔
      ∃ word ∈ vocabulary, ∃ front written left, text = front ++ (written ++ left) ∧
        Spells word.toList written ∧ boundaryAt front.getLast? (written ++ left) = true ∧
        boundaryAt written.getLast? left = true := by
  rw [hasWord, recognises, isSome_findFirst_iff]
  simp only [Option.or_none, wholeWord]
  constructor
  · rintro ⟨front, rest, rfl, some⟩
    split at some
    · rename_i boundary
      rcases isSome_dropWord_iff.mp some with ⟨word, member, written, left, spells, rfl, ends⟩
      exact ⟨word, member, front, written, left, rfl, spells, boundary, ends⟩
    · contradiction
  · rintro ⟨word, member, front, written, left, rfl, spells, boundary, ends⟩
    refine ⟨front, written ++ left, rfl, ?_⟩
    rw [if_pos boundary]
    exact isSome_dropWord_iff.mpr ⟨word, member, written, left, spells, rfl, ends⟩

end RideQuery.Text
