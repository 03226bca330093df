import Mathlib.Data.Option.Basic
import RideQuery.Proofs.Text.Search
import RideQuery.Proofs.Text.Words
import RideQuery.Question.Place

/-!
# Phrases that can name a place

A text can name a place by a preposition with capitalised words behind it, or by a word in
front of a street suffix.  Both kinds of phrase are told here by the parts that a text
falls into, and searching finds the first of each kind if there is one.
-/

namespace RideQuery.Question

open RideQuery.Text

/-! ## Capitalised words -/

/-- The capital letters of ASCII. -/
def IsCapital (c : Char) : Prop :=
  'A' ≤ c ∧ c ≤ 'Z'

instance (c : Char) : Decidable (IsCapital c) :=
  inferInstanceAs (Decidable (_ ∧ _))

/-- A capital letter, and behind it characters that go on a word. -/
def IsCapitalised (word : List Char) : Prop :=
  ∃ c rest, word = c :: rest ∧ IsCapital c ∧ ∀ d ∈ rest, isPlaceChar d = true

/-- Texts that go on with a capital letter behind a gap. -/
def GoesOn (text : List Char) : Prop :=
  ∃ gap c rest, text = gap ++ c :: rest ∧ IsGap gap ∧ IsCapital c

/-- A run of capitalised words that goes as far as it can, and the text behind it. -/
structure IsRun (run : List (List Char)) (written left : List Char) : Prop where
  spaced : IsSpaced run written
  capitalised : ∀ word ∈ run, IsCapitalised word
  ends : ∀ c ∈ left.head?, isPlaceChar c = false
  stops : ¬GoesOn left

theorem isCapital_iff {c : Char} : ('A' ≤ c && c ≤ 'Z') = true ↔ IsCapital c := by
  rw [Bool.and_eq_true, decide_eq_true_iff, decide_eq_true_iff]
  rfl

theorem isUpper_iff_isCapital {c : Char} : c.isUpper = true ↔ IsCapital c :=
  decide_eq_true_iff

theorem isAlphanum_of_isCapital {c : Char} (capital : IsCapital c) : c.isAlphanum = true := by
  change (c.isUpper || c.isLower || c.isDigit) = true
  rw [isUpper_iff_isCapital.mpr capital]
  rfl

theorem isBlank_of_isPlaceChar {c : Char} (inside : isPlaceChar c = true) : isBlank c = false := by
  simp only [isPlaceChar, Bool.or_eq_true, beq_iff_eq] at inside
  rcases inside with (((inWord | rfl) | rfl) | rfl) | rfl
  · exact isBlank_of_isWordChar inWord
  all_goals decide

namespace IsCapitalised

theorem isPlaceChar {word : List Char} (capitalised : IsCapitalised word) :
    ∀ c ∈ word, Question.isPlaceChar c = true := by
  rcases capitalised with ⟨c, rest, rfl, capital, others⟩
  rw [List.forall_mem_cons]
  refine ⟨?_, others⟩
  rw [Question.isPlaceChar, isWordChar_of_isAlphanum (isAlphanum_of_isCapital capital)]
  rfl

theorem isWord {word : List Char} (capitalised : IsCapitalised word) : IsWord word := by
  refine ⟨?_, fun c inside => isBlank_of_isPlaceChar (capitalised.isPlaceChar c inside)⟩
  rcases capitalised with ⟨c, rest, rfl, _⟩
  exact List.cons_ne_nil c rest

end IsCapitalised

theorem dropCapitalised_eq_some_iff {text word left : List Char} :
    dropCapitalised text = some (word, left) ↔
      IsCapitalised word ∧ text = word ++ left ∧ ∀ c ∈ left.head?, isPlaceChar c = false := by
  constructor
  · intro dropped
    cases text with
    | nil => contradiction
    | cons c rest =>
        rw [dropCapitalised] at dropped
        split at dropped
        · rename_i capital
          obtain ⟨rfl, rfl⟩ := Prod.mk.inj (Option.some.inj dropped)
          refine ⟨⟨c, _, rfl, isCapital_iff.mp capital, fun d => List.mem_takeWhile_imp⟩, ?_,
            head?_dropWhile⟩
          rw [List.cons_append, List.takeWhile_append_dropWhile]
        · contradiction
  · rintro ⟨⟨c, rest, rfl, capital, others⟩, rfl, ends⟩
    obtain ⟨taken, dropped⟩ := takeWhile_append_of_all others ends
    rw [List.cons_append, dropCapitalised, if_pos (isCapital_iff.mpr capital), taken, dropped]

theorem isSome_dropCapitalised_iff {text : List Char} :
    (dropCapitalised text).isSome = true ↔ ∃ c rest, text = c :: rest ∧ IsCapital c := by
  cases text with
  | nil => simp [dropCapitalised]
  | cons c rest =>
      by_cases capital : IsCapital c
      · simp [dropCapitalised, isCapital_iff.mpr capital, capital]
      · have small := mt isCapital_iff.mp capital
        rw [dropCapitalised, if_neg small]
        simp [capital]

/-- A text goes on exactly if a capitalised word is read behind the blanks in front. -/
theorem goesOn_iff {text : List Char} :
    GoesOn text ↔ ∃ next, dropBlanks text = some next ∧ (dropCapitalised next).isSome = true := by
  simp only [isSome_dropCapitalised_iff, dropBlanks_eq_some_iff]
  constructor
  · rintro ⟨gap, c, rest, rfl, isGap, capital⟩
    refine ⟨c :: rest, ⟨gap, isGap, rfl, ?_⟩, c, rest, rfl, capital⟩
    rintro d ⟨⟩
    exact isBlank_of_isAlphanum (isAlphanum_of_isCapital capital)
  · rintro ⟨next, ⟨gap, isGap, rfl, _⟩, c, rest, rfl, capital⟩
    exact ⟨gap, c, rest, rfl, isGap, capital⟩

theorem capitalisedRun_of_none {limit : Nat} {text : List Char}
    (nothing : dropCapitalised text = none) : capitalisedRun limit text = [] := by
  cases limit with
  | zero => rfl
  | succ limit => rw [capitalisedRun, nothing]

/-- A run is read as it is written, if it is no longer than the limit. -/
theorem IsRun.capitalisedRun_eq {run : List (List Char)} {written left : List Char}
    (isRun : IsRun run written left) {limit : Nat} (enough : run.length ≤ limit) :
    capitalisedRun limit (written ++ left) = run := by
  rcases isRun with ⟨spaced, capitalised, ends, stops⟩
  induction spaced generalizing limit with
  | single word =>
      cases limit with
      | zero => contradiction
      | succ limit =>
          have first := dropCapitalised_eq_some_iff.mpr
            ⟨capitalised word (List.mem_singleton_self _), rfl, ends⟩
          rw [capitalisedRun, first]
          dsimp only
          cases gap : dropBlanks left with
          | none => rfl
          | some next =>
              have nothing : dropCapitalised next = none := by
                rw [← Option.not_isSome_iff_eq_none]
                intro read
                exact stops (goesOn_iff.mpr ⟨next, gap, read⟩)
              change word :: capitalisedRun limit next = [word]
              rw [capitalisedRun_of_none nothing]
  | @cons gap written rest word isGap spaced inductionHypothesis =>
      rw [List.forall_mem_cons] at capitalised
      cases limit with
      | zero => contradiction
      | succ limit =>
          have first := dropCapitalised_eq_some_iff.mpr
            ⟨capitalised.1, rfl,
              isGap.head?_append (fun c => isBlank_of_isPlaceChar) (written ++ left)⟩
          have gapEnds := spaced.head?_append
            (fun next inside => (capitalised.2 next inside).isWord) left
          have dropped := dropBlanks_eq_some_iff.mpr ⟨gap, isGap, rfl, gapEnds⟩
          rw [List.append_assoc, List.append_assoc, capitalisedRun, first]
          dsimp only
          rw [dropped]
          exact congrArg (word :: ·)
            (inductionHypothesis (Nat.le_of_succ_le_succ enough) capitalised.2)

/-- A text that begins with a capitalised word begins with a run of such words. -/
theorem exists_isRun {text : List Char} (begins : (dropCapitalised text).isSome = true) :
    ∃ run written left, text = written ++ left ∧ IsRun run written left := by
  induction long : text.length using Nat.strong_induction_on generalizing text with
  | _ length inductionHypothesis =>
      rcases Option.isSome_iff_exists.mp begins with ⟨⟨word, left⟩, first⟩
      obtain ⟨capitalised, rfl, ends⟩ := dropCapitalised_eq_some_iff.mp first
      by_cases goesOn : GoesOn left
      · rcases goesOn_iff.mp goesOn with ⟨next, gap, nextBegins⟩
        obtain ⟨blanks, isGap, rfl, _⟩ := dropBlanks_eq_some_iff.mp gap
        have shorter : next.length < length := by
          have wide := List.length_pos_iff.mpr isGap.1
          simp only [List.length_append] at long
          omega
        rcases inductionHypothesis next.length shorter nextBegins rfl with
          ⟨run, written, left, rfl, isRun⟩
        refine ⟨word :: run, word ++ (blanks ++ written), left, by simp, ?_⟩
        exact ⟨.cons word isGap isRun.spaced,
          List.forall_mem_cons.mpr ⟨capitalised, isRun.capitalised⟩, isRun.ends, isRun.stops⟩
      · refine ⟨[word], word, left, rfl, .single word, ?_, ends, goesOn⟩
        rwa [List.forall_mem_singleton]

theorem IsRun.length_le {run : List (List Char)} {written left : List Char}
    (isRun : IsRun run written left) : run.length ≤ written.length := by
  rcases isRun with ⟨spaced, capitalised, _, _⟩
  induction spaced with
  | single word =>
      exact List.length_pos_iff.mpr (capitalised word (List.mem_singleton_self _)).isWord.1
  | @cons gap written rest word isGap spaced inductionHypothesis =>
      rw [List.forall_mem_cons] at capitalised
      have first := List.length_pos_iff.mpr capitalised.1.isWord.1
      have others := inductionHypothesis capitalised.2
      simp only [List.length_cons, List.length_append]
      omega

/-- What is read at the front of a text, if anything, is a run. -/
theorem IsRun.of_capitalisedRun {text : List Char} {run : List (List Char)}
    (nonempty : run ≠ []) (read : capitalisedRun text.length text = run) :
    ∃ written left, text = written ++ left ∧ IsRun run written left := by
  have begins : (dropCapitalised text).isSome = true := by
    rw [Option.isSome_iff_ne_none]
    intro nothing
    rw [capitalisedRun_of_none nothing] at read
    exact nonempty read.symm
  rcases exists_isRun begins with ⟨own, written, left, rfl, isRun⟩
  have enough : own.length ≤ (written ++ left).length := by
    rw [List.length_append]
    exact Nat.le_add_right_of_le isRun.length_le
  rw [isRun.capitalisedRun_eq enough] at read
  exact ⟨written, left, rfl, read ▸ isRun⟩

/-! ## Phrases with a preposition -/

/--
A preposition at the start of a word with a run of capitalised words behind it, as a part
of a text.
-/
structure Phrase (text : List Char) where
  front : List Char
  preposition : String
  gap : List Char
  run : List (List Char)
  written : List Char
  left : List Char
  whole : text = front ++ (preposition.toList ++ (gap ++ (written ++ left)))
  begins : isWordAt front.getLast? = false
  known : preposition ∈ prepositions
  isGap : IsGap gap
  isRun : IsRun run written left

/-- No other phrase of the text begins further in front. -/
def Phrase.IsFirst {text : List Char} (phrase : Phrase text) : Prop :=
  ∀ other : Phrase text, phrase.front.length ≤ other.front.length

/-- No preposition begins like another one. -/
theorem findSome?_prepositions {preposition : String} (known : preposition ∈ prepositions)
    (left : List Char) :
    (prepositions.findSome? fun other => dropExact other.toList (preposition.toList ++ left)) =
      some left := by
  simp only [prepositions, List.mem_cons, List.not_mem_nil, or_false] at known
  rcases known with rfl | rfl | rfl
  all_goals rfl

theorem isWordAt_preposition {preposition : String} (known : preposition ∈ prepositions)
    (left : List Char) : isWordAt (preposition.toList ++ left).head? = true := by
  simp only [prepositions, List.mem_cons, List.not_mem_nil, or_false] at known
  rcases known with rfl | rfl | rfl
  all_goals rfl

/-- What is recognised is a preposition behind the start of a word, a gap and a run. -/
theorem prepositional_eq_some_iff {before : Option Char} {rest : List Char}
    {run : List (List Char)} :
    prepositional before rest = some run ↔
      isWordAt before = false ∧ ∃ preposition ∈ prepositions, ∃ gap written left,
        rest = preposition.toList ++ (gap ++ (written ++ left)) ∧ IsGap gap ∧
          IsRun run written left := by
  constructor
  · intro recognised
    obtain ⟨_, boundary, recognised⟩ := Option.bind_eq_some_iff.mp recognised
    obtain ⟨left, dropped, recognised⟩ := Option.bind_eq_some_iff.mp recognised
    obtain ⟨next, behind, recognised⟩ := Option.bind_eq_some_iff.mp recognised
    obtain ⟨_, nonempty, done⟩ := Option.bind_eq_some_iff.mp recognised
    obtain rfl := Option.some.inj done
    obtain ⟨preposition, known, exact⟩ := List.exists_of_findSome?_eq_some dropped
    obtain rfl := dropExact_eq_some_iff.mp exact
    obtain ⟨gap, isGap, rfl, _⟩ := dropBlanks_eq_some_iff.mp behind
    have begins : capitalisedRun next.length next ≠ [] := by
      simpa using (Option.guard_eq_some' _).mp nonempty
    rcases IsRun.of_capitalisedRun begins rfl with ⟨written, left, same, isRun⟩
    refine ⟨?_, preposition, known, gap, written, left, by rw [← same], isGap, isRun⟩
    rw [← boundaryAt_of_head? (isWordAt_preposition known _)]
    exact (Option.guard_eq_some' _).mp boundary
  · rintro ⟨begins, preposition, known, gap, written, left, rfl, isGap, isRun⟩
    have boundary := (boundaryAt_of_head? (isWordAt_preposition known
      (gap ++ (written ++ left)))).mpr begins
    have gapEnds := isRun.spaced.head?_append
      (fun word inside => (isRun.capitalised word inside).isWord) left
    have dropped := dropBlanks_eq_some_iff.mpr ⟨gap, isGap, rfl, gapEnds⟩
    have enough : run.length ≤ written.length + left.length :=
      Nat.le_add_right_of_le isRun.length_le
    unfold prepositional
    simp [boundary, findSome?_prepositions known, dropped, isRun.capitalisedRun_eq enough,
      isRun.spaced.row_ne_nil, guard]

theorem Phrase.isInfix_written {text : List Char} (phrase : Phrase text) :
    phrase.written <:+: text :=
  ⟨phrase.front ++ (phrase.preposition.toList ++ phrase.gap), phrase.left, by simp [phrase.whole]⟩

theorem Phrase.recognised {text : List Char} (phrase : Phrase text) :
    ∃ rest, text = phrase.front ++ rest ∧
      prepositional phrase.front.getLast? rest = some phrase.run :=
  ⟨_, phrase.whole, prepositional_eq_some_iff.mpr ⟨phrase.begins, phrase.preposition,
    phrase.known, phrase.gap, phrase.written, phrase.left, rfl, phrase.isGap, phrase.isRun⟩⟩

/-- What stands behind the start of a phrase settles its run of words. -/
theorem Phrase.run_eq {text : List Char} {phrase other : Phrase text}
    (same : phrase.front.length = other.front.length) : phrase.run = other.run := by
  rcases phrase.recognised with ⟨rest, whole, recognised⟩
  rcases other.recognised with ⟨left, split, recognised'⟩
  obtain ⟨front, rfl⟩ := List.append_inj (whole.symm.trans split) same
  rw [front, recognised', Option.some.injEq] at recognised
  exact recognised.symm

/-- What is recognised in a text is a phrase of it. -/
theorem exists_phrase {text front rest : List Char} {run : List (List Char)}
    (whole : text = front ++ rest) (recognised : prepositional front.getLast? rest = some run) :
    ∃ phrase : Phrase text, phrase.front = front ∧ phrase.run = run := by
  rcases prepositional_eq_some_iff.mp recognised with
    ⟨begins, preposition, known, gap, written, left, rfl, isGap, isRun⟩
  exact ⟨⟨front, preposition, gap, run, written, left, whole, begins, known, isGap, isRun⟩, rfl,
    rfl⟩

/-- A search finds the words of the first phrase of a text. -/
theorem findFirst_prepositional_eq_some_iff {text : List Char} {run : List (List Char)} :
    findFirst prepositional none text = some run ↔
      ∃ phrase : Phrase text, phrase.IsFirst ∧ phrase.run = run := by
  apply findFirst_eq_some_iff_of_parts Phrase.front Phrase.run Phrase.recognised
  intro front rest run whole recognised
  exact exists_phrase whole recognised

/-- A text with a phrase has a first one. -/
theorem Phrase.exists_isFirst {text : List Char} (phrase : Phrase text) :
    ∃ first : Phrase text, first.IsFirst := by
  rcases phrase.recognised with ⟨rest, same, recognised⟩
  have found : (findFirst prepositional none text).isSome = true := by
    refine isSome_findFirst_iff.mpr ⟨phrase.front, rest, same, ?_⟩
    rw [Option.or_none, recognised]
    rfl
  rcases Option.isSome_iff_exists.mp found with ⟨run, search⟩
  rcases findFirst_prepositional_eq_some_iff.mp search with ⟨first, isFirst, _⟩
  exact ⟨first, isFirst⟩

/-! ## Phrases with a street suffix -/

/-- A letter, and behind it characters that go on the name of a street. -/
def IsStreetName (name : List Char) : Prop :=
  ∃ c rest, name = c :: rest ∧ isFoldedLetter c = true ∧ ∀ d ∈ rest, isStreetChar d = true

/-- A spelling of a street suffix. -/
def IsStreetSuffix (suffix : List Char) : Prop :=
  ∃ word ∈ streetSuffixes, Spells word.toList suffix

/-- A word with a street suffix behind it, both standing alone, as a part of a text. -/
structure Street (text : List Char) where
  front : List Char
  name : List Char
  gap : List Char
  suffix : List Char
  left : List Char
  whole : text = front ++ (name ++ (gap ++ (suffix ++ left)))
  begins : isWordAt front.getLast? = false
  isName : IsStreetName name
  isGap : IsGap gap
  isSuffix : IsStreetSuffix suffix
  ends : isWordAt left.head? = false

/-- No other street of the text begins further in front. -/
def Street.IsFirst {text : List Char} (street : Street text) : Prop :=
  ∀ other : Street text, street.front.length ≤ other.front.length

theorem isWordChar_of_isFoldedLetter {c : Char} (letter : isFoldedLetter c = true) :
    isWordChar c = true := by
  simp only [isFoldedLetter, Bool.or_eq_true, beq_iff_eq] at letter
  rcases letter with (((alpha | rfl) | rfl) | rfl) | rfl
  · exact isWordChar_of_isAlphanum (by rw [Char.isAlphanum, alpha, Bool.true_or])
  all_goals decide +kernel

theorem isBlank_of_isStreetChar {c : Char} (inside : isStreetChar c = true) :
    isBlank c = false := by
  simp only [isStreetChar, Bool.or_eq_true, beq_iff_eq] at inside
  rcases inside with (inWord | rfl) | rfl
  · exact isBlank_of_isWordChar inWord
  all_goals decide

namespace IsStreetName

theorem isStreetChar {name : List Char} (isName : IsStreetName name) :
    ∀ c ∈ name, Question.isStreetChar c = true := by
  rcases isName with ⟨c, rest, rfl, letter, others⟩
  rw [List.forall_mem_cons]
  refine ⟨?_, others⟩
  rw [Question.isStreetChar, isWordChar_of_isFoldedLetter letter]
  rfl

theorem isWord {name : List Char} (isName : IsStreetName name) : IsWord name := by
  refine ⟨?_, fun c inside => isBlank_of_isStreetChar (isName.isStreetChar c inside)⟩
  rcases isName with ⟨c, rest, rfl, _⟩
  exact List.cons_ne_nil c rest

end IsStreetName

namespace IsStreetSuffix

theorem isWordChar {suffix : List Char} (isSuffix : IsStreetSuffix suffix) :
    ∀ c ∈ suffix, Text.isWordChar c = true := by
  rcases isSuffix with ⟨word, known, spells⟩
  have letters : ∀ word ∈ streetSuffixes, ∀ letter ∈ word.toList,
      Text.isWordChar letter = true ∧ Text.isWordChar letter.toUpper = true := by decide +kernel
  exact forall_of_spells spells (letters word known) (by decide +kernel)

theorem isWord {suffix : List Char} (isSuffix : IsStreetSuffix suffix) : IsWord suffix := by
  refine ⟨?_, fun c inside => isBlank_of_isWordChar (isSuffix.isWordChar c inside)⟩
  rcases isSuffix with ⟨word, known, spells⟩
  have long : ∀ word ∈ streetSuffixes, word.toList ≠ [] := by decide
  rintro rfl
  exact long word known (List.forall₂_nil_right_iff.mp spells)

end IsStreetSuffix

/-- A suffix is told by the text that it begins, if a word ends behind it. -/
theorem dropWord_streetSuffixes_eq_some_iff {text suffix left : List Char} :
    dropWord streetSuffixes text = some (suffix, left) ↔
      IsStreetSuffix suffix ∧ text = suffix ++ left ∧ isWordAt left.head? = false := by
  have parts {suffix left : List Char} (isSuffix : IsStreetSuffix suffix)
      (ends : isWordAt left.head? = false) :
      (suffix ++ left).takeWhile isWordChar = suffix ∧
        (suffix ++ left).dropWhile isWordChar = left := by
    apply takeWhile_append_of_all isSuffix.isWordChar
    intro c first
    rwa [Option.mem_def.mp first] at ends
  have forward {suffix left : List Char}
      (dropped : dropWord streetSuffixes text = some (suffix, left)) :
      IsStreetSuffix suffix ∧ text = suffix ++ left ∧ isWordAt left.head? = false := by
    rcases exists_of_dropWord dropped with ⟨word, known, folded, boundary⟩
    obtain ⟨spells, same⟩ := dropFolded_eq_some_iff.mp folded
    have isSuffix : IsStreetSuffix suffix := ⟨word, known, spells⟩
    rw [boundaryAt_getLast? isSuffix.isWord.1 isSuffix.isWordChar] at boundary
    exact ⟨isSuffix, same, boundary⟩
  constructor
  · exact forward
  · rintro ⟨isSuffix, rfl, ends⟩
    have ⟨word, known, spells⟩ := isSuffix
    have found : (dropWord streetSuffixes (suffix ++ left)).isSome = true :=
      isSome_dropWord_iff.mpr ⟨word, known, suffix, left, spells, rfl,
        (boundaryAt_getLast? isSuffix.isWord.1 isSuffix.isWordChar _).mpr ends⟩
    rcases Option.isSome_iff_exists.mp found with ⟨⟨suffix', left'⟩, dropped⟩
    obtain ⟨isSuffix', same, ends'⟩ := forward dropped
    obtain ⟨taken, behind⟩ := parts isSuffix' ends'
    rw [← same] at taken behind
    rw [dropped, ← taken, ← behind, (parts isSuffix ends).1, (parts isSuffix ends).2]

/-- What is recognised is a name behind the start of a word, a gap and a suffix. -/
theorem street_eq_some_iff {before : Option Char} {rest name suffix : List Char} :
    street before rest = some (name, suffix) ↔
      isWordAt before = false ∧ IsStreetName name ∧ IsStreetSuffix suffix ∧ ∃ gap left,
        rest = name ++ (gap ++ (suffix ++ left)) ∧ IsGap gap ∧ isWordAt left.head? = false := by
  constructor
  · intro recognised
    obtain ⟨_, boundary, recognised⟩ := Option.bind_eq_some_iff.mp recognised
    obtain ⟨_, letter, recognised⟩ := Option.bind_eq_some_iff.mp recognised
    obtain ⟨next, behind, recognised⟩ := Option.bind_eq_some_iff.mp recognised
    obtain ⟨⟨suffix', left⟩, dropped, done⟩ := Option.bind_eq_some_iff.mp recognised
    obtain ⟨rfl, rfl⟩ := Prod.mk.inj (Option.some.inj done)
    obtain ⟨gap, isGap, blanks, _⟩ := dropBlanks_eq_some_iff.mp behind
    obtain ⟨isSuffix, rfl, ends⟩ := dropWord_streetSuffixes_eq_some_iff.mp dropped
    cases rest with
    | nil => exact absurd ((Option.guard_eq_some' _).mp letter) Bool.false_ne_true
    | cons c rest =>
        have first : isFoldedLetter c = true := (Option.guard_eq_some' _).mp letter
        have inWord := isWordChar_of_isFoldedLetter first
        have inName : isStreetChar c = true := by
          rw [isStreetChar, inWord]
          rfl
        rw [List.dropWhile_cons_of_pos inName] at blanks
        refine ⟨?_, ?_, isSuffix, gap, left, ?_, isGap, ends⟩
        · have starts : isWordAt (c :: rest).head? = true := inWord
          rw [← boundaryAt_of_head? starts]
          exact (Option.guard_eq_some' _).mp boundary
        · rw [List.takeWhile_cons_of_pos inName]
          exact ⟨c, _, rfl, first, fun d => List.mem_takeWhile_imp⟩
        · rw [List.takeWhile_cons_of_pos inName, ← blanks, List.cons_append,
            List.takeWhile_append_dropWhile]
  · rintro ⟨begins, isName, isSuffix, gap, left, rfl, isGap, ends⟩
    have inName := isName.isStreetChar
    obtain ⟨c, rest, rfl, letter, _⟩ := isName
    have starts : isWordAt (c :: rest ++ (gap ++ (suffix ++ left))).head? = true :=
      isWordChar_of_isFoldedLetter letter
    have boundary := (boundaryAt_of_head? starts).mpr begins
    obtain ⟨taken, dropped⟩ := takeWhile_append_of_all inName
      (isGap.head?_append (fun d => isBlank_of_isStreetChar) (suffix ++ left))
    have blanks := dropBlanks_eq_some_iff.mpr
      ⟨gap, isGap, rfl, isSuffix.isWord.head?_append left⟩
    have suffixed := dropWord_streetSuffixes_eq_some_iff.mpr ⟨isSuffix, rfl, ends⟩
    unfold street
    rw [boundary, taken, dropped, blanks]
    simp [letter, suffixed, guard]

theorem Street.recognised {text : List Char} (found : Street text) :
    ∃ rest, text = found.front ++ rest ∧
      street found.front.getLast? rest = some (found.name, found.suffix) :=
  ⟨_, found.whole, street_eq_some_iff.mpr ⟨found.begins, found.isName, found.isSuffix,
    found.gap, found.left, rfl, found.isGap, found.ends⟩⟩

/-- A search finds the name and the suffix of the first street of a text. -/
theorem findFirst_street_eq_some_iff {text name suffix : List Char} :
    findFirst street none text = some (name, suffix) ↔
      ∃ found : Street text, found.IsFirst ∧ (found.name, found.suffix) = (name, suffix) := by
  apply findFirst_eq_some_iff_of_parts Street.front (fun found => (found.name, found.suffix))
    Street.recognised
  rintro front rest ⟨name, suffix⟩ same recognised
  rcases street_eq_some_iff.mp recognised with
    ⟨begins, isName, isSuffix, gap, left, rfl, isGap, ends⟩
  exact ⟨⟨front, name, gap, suffix, left, same, begins, isName, isGap, isSuffix, ends⟩, rfl, rfl⟩

end RideQuery.Question
