import Mathlib.Data.List.DropRight
import Mathlib.Data.List.TakeWhile
import RideQuery.Text.Blank

/-!
# Trimmed texts

Trimming takes characters of the class off the ends and nothing else, and leaves a text
alone whose first and last characters are not of the class.
-/

namespace RideQuery.Text

/-- What all characters of a text are is decided along the text, not over all characters. -/
instance (priority := high) decidableForallMem (p : Char → Prop) [DecidablePred p]
    (text : List Char) : Decidable (∀ c ∈ text, p c) :=
  List.decidableBAll p text

theorem dropWhile_eq_self {p : Char → Bool} {text : List Char}
    (kept : ∀ c ∈ text.head?, p c = false) : text.dropWhile p = text := by
  cases text with
  | nil => rfl
  | cons c text => simp [kept c (by simp)]

theorem head?_dropWhile {p : Char → Bool} {text : List Char} :
    ∀ c ∈ (text.dropWhile p).head?, p c = false := by
  induction text with
  | nil => simp
  | cons d text inductionHypothesis =>
      rw [List.dropWhile_cons]
      split
      · exact inductionHypothesis
      · simp_all

/-- What begins two texts in a row begins one of them. -/
theorem forall_head?_append {P : Char → Prop} {front rest : List Char}
    (own : ∀ c ∈ front.head?, P c) (behind : ∀ c ∈ rest.head?, P c) :
    ∀ c ∈ (front ++ rest).head?, P c := by
  intro c first
  rw [List.head?_append, Option.mem_def, Option.or_eq_some_iff] at first
  rcases first with first | ⟨_, first⟩
  · exact own c first
  · exact behind c first

/-- A run of characters of a class ends where none of them follows. -/
theorem takeWhile_append_of_all {p : Char → Bool} {text rest : List Char}
    (all : ∀ c ∈ text, p c = true) (stops : ∀ c ∈ rest.head?, p c = false) :
    (text ++ rest).takeWhile p = text ∧ (text ++ rest).dropWhile p = rest := by
  rw [List.takeWhile_append_of_pos all, List.dropWhile_append_of_pos all]
  cases rest with
  | nil => simp
  | cons c rest => simp [stops c (by simp)]

theorem getLast?_dropRightWhile {p : Char → Bool} {text : List Char} :
    ∀ c ∈ (dropRightWhile p text).getLast?, p c = false := by
  rw [dropRightWhile, List.getLast?_reverse]
  exact head?_dropWhile

theorem dropRightWhile_eq_self {p : Char → Bool} {text : List Char}
    (kept : ∀ c ∈ text.getLast?, p c = false) : dropRightWhile p text = text := by
  rw [dropRightWhile, dropWhile_eq_self, List.reverse_reverse]
  simpa using kept

/-- What is dropped at the end of a text is of the class. -/
theorem exists_dropRightWhile_append (p : Char → Bool) (text : List Char) :
    ∃ dropped, text = dropRightWhile p text ++ dropped ∧ ∀ c ∈ dropped, p c = true := by
  refine ⟨(text.reverse.takeWhile p).reverse, ?_, ?_⟩
  · rw [dropRightWhile, ← List.reverse_append, List.takeWhile_append_dropWhile,
      List.reverse_reverse]
  · intro c member
    exact List.mem_takeWhile_imp (List.mem_reverse.mp member)

/-- A text that ends in a kept character is kept in front of any other. -/
theorem dropRightWhile_append {p : Char → Bool} {text : List Char}
    (kept : ∀ c ∈ text.getLast?, p c = false) (rest : List Char) :
    dropRightWhile p (text ++ rest) = text ++ dropRightWhile p rest := by
  have front : text.reverse.dropWhile p = text.reverse := dropWhile_eq_self (by simpa using kept)
  rw [dropRightWhile, List.reverse_append, List.dropWhile_append, front]
  split
  · rename_i nothing
    rw [dropRightWhile, List.isEmpty_iff.mp nothing]
    simp
  · rw [List.reverse_append, List.reverse_reverse, dropRightWhile]

theorem dropRightWhile_append_of_all {p : Char → Bool} {text rest : List Char}
    (kept : ∀ c ∈ text.getLast?, p c = false) (all : ∀ c ∈ rest, p c = true) :
    dropRightWhile p (text ++ rest) = text := by
  have nothing : dropRightWhile p rest = [] := List.rdropWhile_eq_nil_iff.mpr all
  rw [dropRightWhile_append kept, nothing, List.append_nil]

theorem exists_append_stripWhile (p : Char → Bool) (text : List Char) :
    ∃ front ends, text = front ++ (stripWhile p text ++ ends) ∧
      (∀ c ∈ front, p c = true) ∧ ∀ c ∈ ends, p c = true := by
  obtain ⟨ends, whole, dropped⟩ := exists_dropRightWhile_append p (text.dropWhile p)
  refine ⟨text.takeWhile p, ends, ?_, fun c => List.mem_takeWhile_imp, dropped⟩
  rw [stripWhile, ← whole, List.takeWhile_append_dropWhile]

theorem stripWhile_eq_self {p : Char → Bool} {text : List Char}
    (first : ∀ c ∈ text.head?, p c = false) (last : ∀ c ∈ text.getLast?, p c = false) :
    stripWhile p text = text := by
  rw [stripWhile, dropWhile_eq_self first, dropRightWhile_eq_self last]

/-- Only what is put around a text without characters of the class is taken off. -/
theorem stripWhile_append {p : Char → Bool} {front text back : List Char}
    (allFront : ∀ c ∈ front, p c = true) (allBack : ∀ c ∈ back, p c = true)
    (kept : ∀ c ∈ text, p c = false) : stripWhile p (front ++ (text ++ back)) = text := by
  rw [stripWhile, List.dropWhile_append_of_pos allFront]
  by_cases nothing : text = []
  · rw [nothing, List.nil_append, List.dropWhile_eq_nil_iff.mpr allBack]
    rfl
  · have first : ∀ c ∈ (text ++ back).head?, p c = false := by
      rw [List.head?_append_of_ne_nil _ nothing]
      exact fun c head => kept c (List.mem_of_head? head)
    have last : ∀ c ∈ text.getLast?, p c = false :=
      fun c last => kept c (List.mem_of_getLast? last)
    rw [dropWhile_eq_self first, dropRightWhile_append_of_all last allBack]

theorem head?_stripWhile {p : Char → Bool} {text : List Char} :
    ∀ c ∈ (stripWhile p text).head?, p c = false := by
  intro c first
  obtain ⟨dropped, whole, _⟩ := exists_dropRightWhile_append p (text.dropWhile p)
  have stays : ∀ d ∈ (text.dropWhile p).head?, p d = false := head?_dropWhile
  apply stays c
  rw [whole, List.head?_append]
  exact Option.or_eq_some_iff.mpr (.inl first)

theorem mem_of_mem_dropRightWhile {p : Char → Bool} {text : List Char} {c : Char}
    (member : c ∈ dropRightWhile p text) : c ∈ text := by
  rw [dropRightWhile, List.mem_reverse] at member
  exact List.mem_reverse.mp ((List.dropWhile_sublist p).subset member)

end RideQuery.Text
