import RideQuery.Proofs.Number.Literal
import RideQuery.Proofs.Sql.Shown
import RideQuery.Sql.Guard
import RideQuery.Sql.Identifier

/-!
# Statements that pass the guard unchanged

A statement that begins with its first word and ends in a name, a number, a bracket or
a quote is handed to a database as it is.
-/

namespace RideQuery.Sql

open RideQuery.Text RideQuery.Number

/-- Texts whose last character is not trimmed off a statement. -/
def Firm (text : List Char) : Prop :=
  ∀ c ∈ text.getLast?, isBlank c = false ∧ c ≠ ';'

instance (text : List Char) : Decidable (Firm text) :=
  Option.decidableForallMem (p := fun c => isBlank c = false ∧ c ≠ ';') text.getLast?

namespace Firm

theorem append {text other : List Char} (first : Firm text) (second : Firm other) :
    Firm (text ++ other) := by
  intro c last
  rw [List.getLast?_append] at last
  cases ending : other.getLast? with
  | none => exact first c (by simpa [ending] using last)
  | some d => exact second c (by simpa [ending] using last)

/-- What stands in front of a text does not change its end. -/
theorem prepend {other : List Char} (text : List Char) (nonempty : other ≠ [])
    (second : Firm other) : Firm (text ++ other) := by
  intro c last
  rw [List.getLast?_append_of_ne_nil _ nonempty] at last
  exact second c last

theorem of_append {text other : List Char} (firm : Firm (text ++ other)) : Firm other := by
  intro c last
  apply firm c
  rw [List.getLast?_append, Option.mem_def.mp last]
  rfl

theorem of_forall {text : List Char} (all : ∀ c ∈ text, isBlank c = false ∧ c ≠ ';') :
    Firm text :=
  fun c last => all c (List.mem_of_getLast? last)

theorem intercalate (separator : List Char) {texts : List (List Char)}
    (all : ∀ text ∈ texts, text ≠ [] ∧ Firm text) :
    Firm (separator.intercalate texts) ∧ (texts ≠ [] → separator.intercalate texts ≠ []) := by
  induction texts with
  | nil => simp [Firm]
  | cons text texts inductionHypothesis =>
      obtain ⟨⟨nonempty, firm⟩, others⟩ := List.forall_mem_cons.mp all
      obtain ⟨restFirm, restNonempty⟩ := inductionHypothesis others
      cases texts with
      | nil => simpa using ⟨firm, nonempty⟩
      | cons next texts =>
          rw [List.intercalate_cons_cons]
          constructor
          · exact prepend _ (restNonempty (List.cons_ne_nil next texts)) restFirm
          · simp [nonempty]

/-- A clause that is left out without items ends as its last item does. -/
theorem clause {α : Type} {write : α → List Char} {items : List α}
    (opening separator : List Char) (firm : ∀ item ∈ items, write item ≠ [] ∧ Firm (write item)) :
    Firm (if items.isEmpty then []
      else opening ++ separator.intercalate (items.map write)) := by
  split
  · decide
  · rename_i nonempty
    obtain ⟨ends, written⟩ := Firm.intercalate separator (List.forall_mem_map.mpr firm)
    apply prepend opening _ ends
    apply written
    simpa using nonempty

end Firm

/-! ## Characters of names and numbers -/

/-- Characters that neither open anything nor are trimmed. -/
def IsSolid (c : Char) : Prop :=
  IsInert c ∧ isBlank c = false ∧ c ≠ ';'

theorem isSolid_of_isAlphanum {c : Char} (alphanum : c.isAlphanum = true) : IsSolid c := by
  constructor
  · constructor
    · rintro rfl
      contradiction
    · rintro rfl
      contradiction
  · constructor
    · exact isBlank_of_isAlphanum alphanum
    · rintro rfl
      contradiction

theorem isSolid_of_isNumberChar {c : Char} (number : IsNumberChar c) : IsSolid c := by
  rcases number with alphanum | rfl | rfl | rfl
  · exact isSolid_of_isAlphanum alphanum
  all_goals exact ⟨by decide, by decide, by decide⟩

theorem isSolid_of_isIdentifierChar {c : Char} (identifier : isIdentifierChar c = true) :
    IsSolid c := by
  simp only [isIdentifierChar, Bool.or_eq_true, beq_iff_eq] at identifier
  rcases identifier with alphanum | rfl
  · exact isSolid_of_isAlphanum alphanum
  · exact ⟨by decide, by decide, by decide⟩

/-- Texts of solid characters, at least one. -/
def Solid (text : List Char) : Prop :=
  text ≠ [] ∧ ∀ c ∈ text, IsSolid c

theorem Solid.inert {text : List Char} (solid : Solid text) : Inert text :=
  fun c member => (solid.2 c member).1

theorem Solid.firm {text : List Char} (solid : Solid text) : Firm text :=
  .of_forall fun c member => (solid.2 c member).2

theorem solid_of_numberText {text : List Char} (number : NumberText text) : Solid text :=
  ⟨number.1, fun c member => isSolid_of_isNumberChar (number.2 c member)⟩

theorem isIdentifierChar_of_isPlainIdentifier {text : List Char}
    (plain : isPlainIdentifier text = true) : ∀ c ∈ text, isIdentifierChar c = true := by
  cases text with
  | nil => simp
  | cons c text =>
      simp only [isPlainIdentifier, Bool.and_eq_true, List.all_eq_true] at plain
      have first : isIdentifierChar c = true := by
        have start := plain.1
        simp only [isIdentifierStart, Bool.or_eq_true] at start
        simp only [isIdentifierChar, Char.isAlphanum, Bool.or_eq_true]
        exact start.imp_left .inl
      simpa using ⟨first, plain.2⟩

theorem solid_of_isPlainIdentifier {text : List Char} (plain : isPlainIdentifier text = true) :
    Solid text := by
  constructor
  · rintro rfl
    contradiction
  · intro c member
    exact isSolid_of_isIdentifierChar (isIdentifierChar_of_isPlainIdentifier plain c member)

/-! ## The guard -/

theorem trimStatement_eq_self {text : List Char} (starts : ∀ c ∈ text.head?, isBlank c = false)
    (firm : Firm text) : trimStatement text = text := by
  have trimmed : trim text = text := stripWhile_eq_self starts fun c last => (firm c last).1
  rw [trimStatement, trimmed, dropRightWhile_eq_self]
  intro c last
  simpa using (firm c last).2

theorem statementOf_none (text : List Char) :
    statementOf none text = .ok (trimStatement text) :=
  rfl

theorem isReadOnly_select {rest : List Char} (firm : Firm ("SELECT ".toList ++ rest)) :
    isReadOnly ("SELECT ".toList ++ rest) = true := by
  have trimmed : trim ("SELECT ".toList ++ rest) = "SELECT ".toList ++ rest :=
    stripWhile_eq_self (by simp; decide) fun c last => (firm c last).1
  rw [isReadOnly, trimmed]
  rfl

end RideQuery.Sql
