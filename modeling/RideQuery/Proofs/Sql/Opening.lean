import RideQuery.Proofs.Fallible
import RideQuery.Proofs.Sql.Single
import RideQuery.Proofs.Text.Search

/-!
# Openings of statements

The guard lets a text through if a word for a query stands behind its brackets and
blanks, letter by letter and up to case.  Neither trimming nor a limit changes that
word.  It is the word itself exactly if all of its letters are in ASCII, for the case
of letters is told beyond ASCII too.
-/

namespace RideQuery.Sql

open RideQuery.Text RideQuery.Number

/-! ## The first word -/

/-- Blanks and opening brackets. -/
def isOpening (c : Char) : Bool :=
  isBlank c || c == '('

/-- The first word of a text, behind blanks and opening brackets. -/
def firstWord (text : List Char) : List Char :=
  (text.dropWhile isOpening).takeWhile isWordChar

/-- Whether a word is one that queries begin with, in small letters or capitals. -/
def IsQueryWord (word : List Char) : Prop :=
  String.ofList (word.map Char.toLower) ∈ queryWords

instance (word : List Char) : Decidable (IsQueryWord word) :=
  inferInstanceAs (Decidable (_ ∈ _))

/-- Texts that begin with brackets, blanks and a spelling of a word that queries begin with. -/
def OpensAsQuery (text : List Char) : Prop :=
  ∃ brackets blanks written left,
    trim text = brackets ++ (blanks ++ (written ++ left)) ∧
      (∀ c ∈ brackets, c = '(') ∧ (∀ c ∈ blanks, isBlank c = true) ∧
      (∃ word ∈ queryWords, Spells word.toList written) ∧ isWordAt left.head? = false

/-! ## Letters of query words -/

/-- Letters that neither open, nor end, nor leave a word. -/
def IsInsideWord (c : Char) : Prop :=
  isWordChar c = true ∧ isOpening c = false ∧ c ≠ ';'

instance (c : Char) : Decidable (IsInsideWord c) :=
  inferInstanceAs (Decidable (_ ∧ _ ∧ _))

theorem isInsideWord_of_spells {word : String} (member : word ∈ queryWords)
    {written : List Char} (spells : Spells word.toList written) :
    written ≠ [] ∧ ∀ c ∈ written, IsInsideWord c := by
  constructor
  · rintro rfl
    have empty : word.toList = [] := List.forall₂_nil_right_iff.mp spells
    have none : ∀ word ∈ queryWords, word.toList ≠ [] := by decide
    exact none word member empty
  · have ascii : ∀ word ∈ queryWords, ∀ letter ∈ word.toList,
        IsInsideWord letter ∧ IsInsideWord letter.toUpper := by decide
    have foreign : ∀ c ∈ foldingLetters, IsInsideWord c := by decide +kernel
    exact forall_of_spells spells (ascii word member) foreign

/-- A spelling of a query word is one exactly if all of its letters are in ASCII. -/
theorem isQueryWord_iff_of_spells {word : String} (member : word ∈ queryWords)
    {written : List Char} (spells : Spells word.toList written) :
    IsQueryWord written ↔ ∀ c ∈ written, c.toNat < 128 := by
  have ascii : ∀ word ∈ queryWords, ∀ letter ∈ word.toList,
      (letter.toNat < 128 ∧ letter.toLower = letter) ∧
        letter.toUpper.toNat < 128 ∧ letter.toUpper.toLower = letter := by decide
  have foreign : ∀ c ∈ foldingLetters, ¬ c.toNat < 128 ∧
      ∀ word ∈ queryWords, c.toLower ∉ word.toList := by decide
  constructor
  · intro isWord c inside
    obtain ⟨letter, own, folds⟩ := exists_of_mem_forall₂ spells c inside
    rcases eq_or_mem_of_foldsTo folds with rfl | rfl | other
    · exact (ascii word member c own).1.1
    · exact (ascii word member letter own).2.1
    · have lowered : c.toLower ∈ (String.ofList (written.map Char.toLower)).toList := by
        rw [String.toList_ofList]
        exact List.mem_map_of_mem inside
      exact absurd lowered ((foreign c other).2 _ isWord)
  · intro allAscii
    have letters : ∀ letter ∈ word.toList,
        letter.toLower = letter ∧ letter.toUpper.toLower = letter :=
      fun letter own => ⟨(ascii word member letter own).1.2, (ascii word member letter own).2.2⟩
    rw [IsQueryWord, map_toLower_of_spells spells letters allAscii, String.ofList_toList]
    exact member

/-! ## The guard -/

theorem isInsideWord_of_head? {written : List Char} (nonempty : written ≠ [])
    (inside : ∀ c ∈ written, IsInsideWord c) (rest : List Char) :
    ∀ c ∈ (written ++ rest).head?, IsInsideWord c := by
  intro c first
  rw [List.head?_append_of_ne_nil _ nonempty] at first
  exact inside c (List.mem_of_mem_head? first)

/-- A word of a query begins behind whatever is skipped and ends with its own letters. -/
theorem firstWord_append {front written rest : List Char}
    (skipped : ∀ c ∈ front, isOpening c = true) (nonempty : written ≠ [])
    (inside : ∀ c ∈ written, IsInsideWord c) (ends : isWordAt rest.head? = false) :
    firstWord (front ++ (written ++ rest)) = written := by
  have begins : (written ++ rest).dropWhile isOpening = written ++ rest :=
    dropWhile_eq_self fun c first => (isInsideWord_of_head? nonempty inside rest c first).2.1
  have stops : ∀ c ∈ rest.head?, isWordChar c = false := by
    intro c first
    rw [Option.mem_def.mp first] at ends
    exact ends
  rw [firstWord, List.dropWhile_append_of_pos skipped, begins]
  exact (takeWhile_append_of_all (fun c member => (inside c member).1) stops).1

/-- The guard lets exactly the texts through that open as a query. -/
theorem isReadOnly_iff (text : List Char) : isReadOnly text = true ↔ OpensAsQuery text := by
  rw [isReadOnly, isSome_dropWord_iff]
  constructor
  · rintro ⟨word, member, written, left, spells, same, boundary⟩
    obtain ⟨nonempty, inside⟩ := isInsideWord_of_spells member spells
    refine ⟨(trim text).takeWhile (· == '('), ((trim text).dropWhile (· == '(')).takeWhile isBlank,
      written, left, ?_, ?_, fun c => List.mem_takeWhile_imp, ⟨word, member, spells⟩, ?_⟩
    · rw [← same, List.takeWhile_append_dropWhile, List.takeWhile_append_dropWhile]
    · intro c bracket
      simpa using List.mem_takeWhile_imp bracket
    · exact (boundaryAt_getLast? nonempty (fun c member => (inside c member).1) left).mp boundary
  · rintro ⟨brackets, blanks, written, left, trimmed, areBrackets, areBlanks,
      ⟨word, member, spells⟩, ends⟩
    obtain ⟨nonempty, inside⟩ := isInsideWord_of_spells member spells
    have begins : ∀ c ∈ (written ++ left).head?, isBlank c = false ∧ (c == '(') = false := by
      intro c first
      simpa [isOpening] using (isInsideWord_of_head? nonempty inside left c first).2.1
    have behindBlanks : (blanks ++ (written ++ left)).dropWhile isBlank = written ++ left := by
      rw [List.dropWhile_append_of_pos areBlanks]
      exact dropWhile_eq_self fun c first => (begins c first).1
    have behindBrackets : (trim text).dropWhile (· == '(') = blanks ++ (written ++ left) := by
      rw [trimmed, List.dropWhile_append_of_pos (by simpa using areBrackets)]
      apply dropWhile_eq_self
      intro c first
      cases blanks with
      | nil => exact (begins c first).2
      | cons d blanks =>
          obtain rfl := Option.some.inj first
          have blank := areBlanks d List.mem_cons_self
          cases bracket : d == '(' with
          | false => rfl
          | true =>
              rw [beq_iff_eq.mp bracket] at blank
              contradiction
    refine ⟨word, member, written, left, spells, ?_, ?_⟩
    · rw [behindBrackets, behindBlanks]
    · exact (boundaryAt_getLast? nonempty (fun c member => (inside c member).1) left).mpr ends

/-! ## Statements of texts that open as a query -/

theorem isWordAt_append {text rest : List Char} (first : isWordAt text.head? = false)
    (second : isWordAt rest.head? = false) : isWordAt (text ++ rest).head? = false := by
  cases text with
  | nil => exact second
  | cons c text => exact first

theorem isWordAt_dropRightWhile {text : List Char} (p : Char → Bool)
    (first : isWordAt text.head? = false) : isWordAt (dropRightWhile p text).head? = false := by
  obtain ⟨dropped, whole, _⟩ := exists_dropRightWhile_append p text
  cases kept : dropRightWhile p text with
  | nil => rfl
  | cons c rest =>
      rw [kept] at whole
      rw [whole] at first
      exact first

/-- A statement opens with the word that its text opens with. -/
theorem firstWord_statementOf {limit : Option Int} {text statement : List Char}
    (made : statementOf limit text = .ok statement) (opens : OpensAsQuery text) :
    firstWord statement = firstWord text ∧
      ∃ word ∈ queryWords, Spells word.toList (firstWord text) := by
  obtain ⟨brackets, blanks, written, left, trimmed, areBrackets, areBlanks,
    ⟨word, member, spells⟩, ends⟩ := opens
  obtain ⟨nonempty, inside⟩ := isInsideWord_of_spells member spells
  have skipped : ∀ c ∈ brackets ++ blanks, isOpening c = true := by
    intro c inFront
    rcases List.mem_append.mp inFront with bracket | blank
    · simp [isOpening, areBrackets c bracket]
    · simp [isOpening, areBlanks c blank]
  have textWord : firstWord text = written := by
    obtain ⟨front, behind, whole, frontBlank, behindBlank⟩ := exists_append_stripWhile isBlank text
    have parts : text = (front ++ (brackets ++ blanks)) ++ (written ++ (left ++ behind)) := by
      have middle : stripWhile isBlank text = brackets ++ (blanks ++ (written ++ left)) := trimmed
      rw [middle] at whole
      simpa using whole
    rw [parts]
    apply firstWord_append _ nonempty inside
      (isWordAt_append ends (isWordAt_of_isBlank behindBlank))
    intro c inFront
    rcases List.mem_append.mp inFront with blank | opening
    · simp [isOpening, frontBlank c blank]
    · exact skipped c opening
  have kept : trimStatement text =
      (brackets ++ blanks) ++ (written ++ dropRightWhile (· == ';') left) := by
    have last : ∀ c ∈ (brackets ++ (blanks ++ written)).getLast?, (c == ';') = false := by
      intro c final
      rw [← List.append_assoc, List.getLast?_append_of_ne_nil _ nonempty] at final
      simpa using (inside c (List.mem_of_getLast? final)).2.2
    rw [trimStatement, trimmed]
    simpa using dropRightWhile_append last left
  have stops := isWordAt_dropRightWhile (· == ';') ends
  rw [textWord]
  refine ⟨?_, word, member, spells⟩
  rcases statementOf_cases made with ⟨_, rfl⟩ | ⟨_, rows, clause, writtenOut, rfl⟩
  · rw [kept]
    exact firstWord_append skipped nonempty inside stops
  · obtain ⟨digits, rfl, _⟩ := exists_limitClause writtenOut
    have clauseStops : isWordAt (" LIMIT ".toList ++ digits).head? = false := rfl
    rw [kept, List.append_assoc, List.append_assoc written]
    exact firstWord_append skipped nonempty inside (isWordAt_append stops clauseStops)

end RideQuery.Sql
