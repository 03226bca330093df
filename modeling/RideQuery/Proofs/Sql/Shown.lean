import Mathlib.Data.List.Forall2
import RideQuery.Proofs.Number.Numeral
import RideQuery.Proofs.Sql.Scan

/-!
# Shown placeholders

Texts put together from parts show the placeholders of their parts.  Only a part in
front of a numeral or a quote has to be looked at closely, so most parts are inert and
the seams between the others are closed by a blank.
-/

namespace RideQuery.Sql

open RideQuery.Text RideQuery.Number

/-- The digits of a number. -/
def numeral (number : Nat) : List Char :=
  (Nat.repr number).toList

/-- The digits of the placeholders of a text, in order. -/
def placeholderDigits (text : List Char) : List (List Char) :=
  (pieces text).filterMap Piece.digits?

/-- Texts without quotes and dollar signs. -/
def Inert (text : List Char) : Prop :=
  ∀ c ∈ text, IsInert c

instance (text : List Char) : Decidable (Inert text) :=
  List.decidableBAll IsInert text

/-- Texts that show placeholders with some numbers, whatever separate text follows them. -/
def Shows (text : List Char) (numbers : List Nat) : Prop :=
  ∀ rest, Separates rest →
    placeholderDigits (text ++ rest) = numbers.map numeral ++ placeholderDigits rest

/-! ## Inert texts -/

theorem inert_append {text other : List Char} :
    Inert (text ++ other) ↔ Inert text ∧ Inert other :=
  List.forall_mem_append

theorem inert_cons {c : Char} {text : List Char} :
    Inert (c :: text) ↔ IsInert c ∧ Inert text :=
  List.forall_mem_cons

theorem inert_intercalate {separator : List Char} {texts : List (List Char)}
    (separatorInert : Inert separator) (inert : ∀ text ∈ texts, Inert text) :
    Inert (separator.intercalate texts) := by
  induction texts with
  | nil => simp [Inert]
  | cons text texts inductionHypothesis =>
      obtain ⟨first, others⟩ := List.forall_mem_cons.mp inert
      cases texts with
      | nil => simpa using first
      | cons next texts =>
          rw [List.intercalate_cons_cons, inert_append, inert_append]
          exact ⟨⟨first, separatorInert⟩, inductionHypothesis others⟩

theorem placeholderDigits_inert_append {text : List Char} (inert : Inert text)
    (rest : List Char) : placeholderDigits (text ++ rest) = placeholderDigits rest := by
  have none : (text.map Piece.plain).filterMap Piece.digits? = [] := by
    simp [List.filterMap_map, Piece.digits?, Function.comp_def]
  rw [placeholderDigits, pieces_append_of_isInert inert, List.filterMap_append, none]
  rfl

/-! ## Shown numbers -/

namespace Shows

theorem nil : Shows [] [] :=
  fun _ _ => rfl

theorem of_inert {text : List Char} (inert : Inert text) : Shows text [] :=
  fun rest _ => placeholderDigits_inert_append inert rest

theorem digits_eq {text : List Char} {numbers : List Nat} (shows : Shows text numbers) :
    placeholderDigits text = numbers.map numeral := by
  simpa [placeholderDigits] using shows [] separates_nil

theorem append {text other : List Char} {numbers others : List Nat}
    (first : Shows text numbers) (second : Shows other others) (separates : Separates other) :
    Shows (text ++ other) (numbers ++ others) := by
  intro rest restSeparates
  rw [List.append_assoc, first _ (separates_append separates restSeparates),
    second rest restSeparates, List.map_append, List.append_assoc]

/-- Nothing that an inert text is followed by can turn it into a placeholder. -/
theorem inert_append {text other : List Char} {numbers : List Nat}
    (inert : Inert text) (shows : Shows other numbers) : Shows (text ++ other) numbers := by
  intro rest separates
  rw [List.append_assoc, placeholderDigits_inert_append inert, shows rest separates]

theorem placeholder (number : Nat) : Shows ('$' :: numeral number) [number] := by
  intro rest separates
  have decimal : ∀ c ∈ numeral number, isDecimalDigit c = true :=
    fun c member => isDecimalDigit_of_isDigit (isDigit_of_mem_repr member)
  have nonempty : numeral number ≠ [] := toList_repr_ne_nil number
  rw [placeholderDigits, List.cons_append, pieces_placeholder nonempty decimal separates]
  rfl

theorem literal {inside : List Char} (unquoted : singleQuote ∉ inside) :
    Shows (singleQuote :: (inside ++ [singleQuote])) [] := by
  intro rest separates
  rw [placeholderDigits, List.cons_append, List.append_assoc, List.singleton_append,
    pieces_literal unquoted separates]
  rfl

/-- A separator in front of each text but the first keeps their placeholders apart. -/
theorem intercalate {separator : List Char} (inert : Inert separator)
    (separates : Separates separator) (nonempty : separator ≠ [])
    {texts : List (List Char)} {numbers : List (List Nat)}
    (shows : List.Forall₂ Shows texts numbers) :
    Shows (separator.intercalate texts) numbers.flatten := by
  induction shows with
  | nil => exact nil
  | @cons text first texts others head tail inductionHypothesis =>
      cases tail with
      | nil => simpa [List.intercalate] using head
      | @cons next second texts others _ _ =>
          have restSeparates :
              Separates (separator ++ separator.intercalate (next :: texts)) := by
            cases separator with
            | nil => contradiction
            | cons c separator => exact separates
          rw [List.intercalate_cons_cons, List.flatten_cons, List.append_assoc]
          exact head.append (inductionHypothesis.inert_append inert) restSeparates

end Shows

end RideQuery.Sql
