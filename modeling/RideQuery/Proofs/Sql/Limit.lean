import RideQuery.Proofs.Sql.Quoting
import RideQuery.Proofs.Sql.Single
import RideQuery.Proofs.Text.Lowering

/-!
# Limits of statements

A text limits itself if the keyword stands in it as a whole word, in any case and outside of
literals.  The guard looks for the letters of the keyword between two spaces, and for nothing
else: it overlooks a limit that a line break stands next to, and mistakes the words of a
literal for one.
-/

namespace RideQuery.Sql

open RideQuery.Text RideQuery.Number

variable {text : List Char}

/-! ## Places of a limit -/

/-- The keyword that begins a limit, in small letters. -/
def limitWord : List Char := "limit".toList

/-- The keyword of a limit stands at a position of a text, as a whole word and in any case. -/
def IsLimitAt (text : List Char) (position : Nat) : Prop :=
  ((text.drop position).take limitWord.length).map Char.toLower = limitWord ∧
    isWordAt (text.take position).getLast? = false ∧
    isWordAt (text.drop (position + limitWord.length)).head? = false

instance (text : List Char) (position : Nat) : Decidable (IsLimitAt text position) :=
  inferInstanceAs (Decidable (_ ∧ _ ∧ _))

/-- A position of a text is outside of its literals. -/
def IsOutsideAt (text : List Char) (position : Nat) : Prop :=
  IsOutside ((text.take position).count singleQuote) (text.drop position)

instance (text : List Char) (position : Nat) : Decidable (IsOutsideAt text position) :=
  inferInstanceAs (Decidable (IsOutside _ _))

/-- There is a space on either side of the keyword at a position. -/
def IsSpacedAt (text : List Char) (position : Nat) : Prop :=
  (text.take position).getLast? = some ' ' ∧
    (text.drop (position + limitWord.length)).head? = some ' '

instance (text : List Char) (position : Nat) : Decidable (IsSpacedAt text position) :=
  inferInstanceAs (Decidable (_ ∧ _))

/-- A text has a limit of its own. -/
def LimitsItself (text : List Char) : Prop :=
  ∃ position < text.length, IsLimitAt text position ∧ IsOutsideAt text position

instance (text : List Char) : Decidable (LimitsItself text) :=
  Nat.decidableExistsLT (p := fun position => IsLimitAt text position ∧ IsOutsideAt text position)
    text.length

/-- The keyword of a limit stands between two spaces somewhere in a text. -/
def HasSpacedLimit (text : List Char) : Prop :=
  ∃ position < text.length, IsLimitAt text position ∧ IsSpacedAt text position

theorem isLimitAt_append {front word back : List Char} (long : word.length = limitWord.length) :
    IsLimitAt (front ++ (word ++ back)) front.length ↔
      word.map Char.toLower = limitWord ∧ isWordAt front.getLast? = false ∧
        isWordAt back.head? = false := by
  rw [IsLimitAt, ← long]
  simp

theorem isSpacedAt_append {front word back : List Char} (long : word.length = limitWord.length) :
    IsSpacedAt (front ++ (word ++ back)) front.length ↔
      front.getLast? = some ' ' ∧ back.head? = some ' ' := by
  rw [IsSpacedAt, ← long]
  simp

/-- A limit between spaces cuts its text into three parts. -/
theorem hasSpacedLimit_iff : HasSpacedLimit text ↔
    ∃ front word back, text = front ++ ' ' :: (word ++ ' ' :: back) ∧
      word.map Char.toLower = limitWord := by
  constructor
  · rintro ⟨position, -, ⟨letters, -, -⟩, front_eq, back_eq⟩
    obtain ⟨front, front_eq⟩ := List.getLast?_eq_some_iff.mp front_eq
    obtain ⟨back, back_eq⟩ := List.head?_eq_some_iff.mp back_eq
    refine ⟨front, (text.drop position).take limitWord.length, back, ?_, letters⟩
    rw [← back_eq, ← List.drop_drop, List.take_append_drop, ← List.singleton_append,
      ← List.append_assoc, ← front_eq, List.take_append_drop]
  · rintro ⟨front, word, back, rfl, letters⟩
    have long : word.length = limitWord.length := by simpa using congrArg List.length letters
    have parts : front ++ ' ' :: (word ++ ' ' :: back) =
        (front ++ [' ']) ++ (word ++ ' ' :: back) := by
      rw [List.append_assoc, List.singleton_append]
    rw [parts]
    refine ⟨(front ++ [' ']).length, by simp, (isLimitAt_append long).mpr ⟨letters, ?_, rfl⟩,
      (isSpacedAt_append long).mpr ⟨List.getLast?_concat, rfl⟩⟩
    rw [List.getLast?_concat]
    rfl

/-- The guard finds the limits that stand between spaces, whether in literals or not. -/
theorem hasLimit_iff (text : List Char) : hasLimit text = true ↔ HasSpacedLimit text := by
  have lowersTo (word : List Char) : lower word = limitWord ↔ word.map Char.toLower = limitWord :=
    lower_eq_iff_of_isAscii (by decide) (by decide)
  rw [hasSpacedLimit_iff, hasLimit, occursIn_iff]
  constructor
  · rintro ⟨front, back, lowered⟩
    have spaced : lower text = front ++ ' ' :: (limitWord ++ ' ' :: back) := by
      rw [← lowered]
      simp [limitWord]
    obtain ⟨before, rest, rfl, -, restLowered⟩ := lower_eq_append_space_iff.mp spaced
    obtain ⟨word, behind, rfl, wordLowered, -⟩ := lower_eq_append_space_iff.mp restLowered
    exact ⟨before, word, behind, rfl, (lowersTo word).mp wordLowered⟩
  · rintro ⟨front, word, back, rfl, letters⟩
    refine ⟨lower front, lower back, ?_⟩
    rw [lower_append_space, lower_append_space, (lowersTo word).mpr letters]
    simp [limitWord]

/-! ## Misjudged limits -/

/-- The ways in which a text is taken for one that limits itself, or for one that does not. -/
inductive IsMisjudged (text : List Char) : Prop
  /-- The text limits itself, but not with a keyword between two spaces. -/
  | overlooked (limits : LimitsItself text)
      (unspaced : ∀ position < text.length, IsLimitAt text position → ¬ IsSpacedAt text position)
  /-- A literal holds the keyword between two spaces, and only literals hold it at all. -/
  | mistaken (spaced : HasSpacedLimit text)
      (quoted : ∀ position < text.length, IsLimitAt text position → ¬ IsOutsideAt text position)

theorem isMisjudged_iff : IsMisjudged text ↔ ¬ (HasSpacedLimit text ↔ LimitsItself text) := by
  constructor
  · rintro (⟨limits, unspaced⟩ | ⟨spaced, quoted⟩) same
    · obtain ⟨position, inside, isLimit, spaced⟩ := same.mpr limits
      exact unspaced position inside isLimit spaced
    · obtain ⟨position, inside, isLimit, outside⟩ := same.mp spaced
      exact quoted position inside isLimit outside
  · intro differ
    by_cases limits : LimitsItself text
    · have unspaced : ¬ HasSpacedLimit text := fun spaced => differ (iff_of_true spaced limits)
      exact .overlooked limits fun position inside isLimit spaced =>
        unspaced ⟨position, inside, isLimit, spaced⟩
    · have spaced : HasSpacedLimit text :=
        not_not.mp fun unspaced => differ (iff_of_false unspaced limits)
      exact .mistaken spaced fun position inside isLimit outside =>
        limits ⟨position, inside, isLimit, outside⟩

/-! ## Limited statements -/

/-- The clause that limits a statement to a number of rows. -/
def limitText (limit : Int) : List Char :=
  " LIMIT ".toList ++ (integerText limit).toList

theorem limitText_ne_nil (limit : Int) : limitText limit ≠ [] :=
  List.append_ne_nil_of_left_ne_nil (by decide) _

/-- A statement is a text that is limited once, by itself or else by a clause behind it. -/
structure IsLimitedOnce (limit : Int) (text statement : List Char) : Prop where
  own : LimitsItself text → statement = text
  added : ¬ LimitsItself text → statement = text ++ limitText limit

theorem isLimitedOnce_self_iff {limit : Int} :
    IsLimitedOnce limit text text ↔ LimitsItself text := by
  constructor
  · intro once
    by_contra unlimited
    exact limitText_ne_nil limit (List.self_eq_append_right.mp (once.added unlimited))
  · intro limits
    exact ⟨fun _ => rfl, fun unlimited => absurd limits unlimited⟩

theorem isLimitedOnce_append_iff {limit : Int} :
    IsLimitedOnce limit text (text ++ limitText limit) ↔ ¬ LimitsItself text := by
  constructor
  · intro once limits
    exact limitText_ne_nil limit (List.self_eq_append_right.mp (once.own limits).symm)
  · intro unlimited
    exact ⟨fun limits => absurd limits unlimited, fun _ => rfl⟩

/-- A text with a limit between two spaces is left as it is. -/
theorem withLimit_of_hasSpacedLimit (limit : Int) (spaced : HasSpacedLimit text) :
    withLimit (some limit) text = .ok text := by
  simp [withLimit, (hasLimit_iff text).mpr spaced]

/-- Any other text is given a limit, if that can be written. -/
theorem withLimit_of_not_hasSpacedLimit {limit : Int} (nonzero : limit ≠ 0)
    (unspaced : ¬ HasSpacedLimit text) :
    withLimit (some limit) text =
      if digitCount limit.natAbs ≤ maxDigits then .ok (text ++ limitText limit)
      else .error .tooLongToWrite := by
  have bare : hasLimit text = false := by rwa [← Bool.not_eq_true, hasLimit_iff]
  have added : ¬ (decide (limit = 0) || hasLimit text) = true := by simp [nonzero, bare]
  rw [withLimit, if_neg added, limitClause, writeInteger]
  split <;> rfl

end RideQuery.Sql
