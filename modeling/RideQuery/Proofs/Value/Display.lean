import RideQuery.Intent
import RideQuery.Proofs.Fallible
import RideQuery.Value.Display

/-!
# Values that can be displayed

The forms for inspection of collections are made from those of their members.  The value of a
filter can be displayed unless it is an integer with too many digits.
-/

namespace RideQuery

open RideQuery.Number

namespace Value

section Members

variable {ρ ε : Type} (display : Display ρ ε) (room : ρ)

theorem inspectAll_eq_mapM (items : List Value) :
    inspectAll display room items = items.mapM (inspectWith display room) := by
  induction items with
  | nil => rfl
  | cons item items inductionHypothesis =>
      rw [inspectAll, inductionHypothesis, List.mapM_cons, inspectWith]
      simp only [bind_assoc]
      rfl

/-- An entry in the form for inspection. -/
def inspectEntry (entry : Value × Value) : Except ε String := do
  let shownKey ← inspectWith display room entry.1
  let shownValue ← inspectWith display room entry.2
  .ok (shownKey ++ ": " ++ shownValue)

theorem inspectEntries_eq_mapM (entries : Dict) :
    inspectEntries display room entries = entries.mapM (inspectEntry display room) := by
  induction entries with
  | nil => rfl
  | cons entry entries inductionHypothesis =>
      obtain ⟨key, value⟩ := entry
      rw [inspectEntries, inductionHypothesis, List.mapM_cons, inspectEntry, inspectWith, inspectWith]
      simp only [bind_assoc]
      rfl

theorem inspectInside_list (items : List Value) :
    inspectInside display room (.list items) =
      items.mapM (inspectWith display room) >>= fun shown =>
        .ok ("[" ++ ", ".intercalate shown ++ "]") := by
  rw [inspectInside, inspectAll_eq_mapM]

theorem inspectInside_tuple (items : List Value) :
    inspectInside display room (.tuple items) =
      items.mapM (inspectWith display room) >>= fun shown => .ok (tupleText shown) := by
  rw [inspectInside, inspectAll_eq_mapM]

theorem inspectInside_dict (entries : Dict) :
    inspectInside display room (.dict entries) =
      entries.mapM (inspectEntry display room) >>= fun shown => .ok (dictText shown) := by
  rw [inspectInside, inspectEntries_eq_mapM]

end Members

/-- With all the room that it takes, a value is shown for inspection as it is inside. -/
theorem inspect_eq_inspectInside (value : Value) :
    inspect value = inspectInside .ample () value :=
  rfl

theorem inspect_int (n : Int) : inspect (.int n) = writeInteger n := by
  change (writeInteger n).mapError id = _
  cases writeInteger n <;> rfl

/-- A collection is displayed as it is inspected. -/
theorem plain_list (items : List Value) : plain (.list items) = inspect (.list items) :=
  rfl

end Value

/-- Values of filters, except for integers with too many digits. -/
def FilterValue.IsDisplayable : FilterValue → Prop
  | .int n => digitCount n.natAbs ≤ maxDigits
  | _ => True

instance : (value : FilterValue) → Decidable value.IsDisplayable
  | .int n => inferInstanceAs (Decidable (digitCount n.natAbs ≤ maxDigits))
  | .float _ => .isTrue trivial
  | .text _ => .isTrue trivial
  | .texts _ => .isTrue trivial

theorem FilterValue.IsDisplayable.exists_plain {value : FilterValue}
    (displayable : value.IsDisplayable) : ∃ text, value.toValue.plain = .ok text := by
  cases value with
  | int n => exact ⟨_, (Value.inspect_int n).trans (if_pos displayable)⟩
  | float x => exact ⟨_, rfl⟩
  | text s => exact ⟨s, rfl⟩
  | texts members =>
      have quoted : (members.map Value.text).mapM Value.inspect =
          .ok (members.map Text.quote) := by
        rw [List.mapM_map]
        exact mapM_eq_ok_map fun member _ => rfl
      rw [FilterValue.toValue, Value.plain_list, Value.inspect_eq_inspectInside,
        Value.inspectInside_list]
      change ∃ text, ((members.map Value.text).mapM Value.inspect >>= _) = .ok text
      rw [quoted]
      exact ⟨_, rfl⟩

theorem FilterValue.exists_plain_iff {value : FilterValue} :
    (∃ text, value.toValue.plain = .ok text) ↔ value.IsDisplayable := by
  constructor
  · rintro ⟨text, shown⟩
    cases value with
    | int n =>
        by_contra long
        have refused : writeInteger n = .error .tooLongToWrite := if_neg long
        exact nomatch refused.symm.trans ((Value.inspect_int n).symm.trans shown)
    | _ => trivial
  · exact FilterValue.IsDisplayable.exists_plain

end RideQuery
