import RideQuery.Proofs.Value.Display

/-!
# Values with integers that are too long

An integer with too many digits cannot be written, however deep it lies in a value, be it in a key.
-/

namespace RideQuery.Value

open RideQuery.Number

/-- What holds of a value whenever it holds of its members holds of every value. -/
@[elab_as_elim]
theorem memberInduction {motive : Value → Prop} (null : motive .null)
    (bool : ∀ b, motive (.bool b)) (int : ∀ n, motive (.int n)) (float : ∀ x, motive (.float x))
    (text : ∀ s, motive (.text s)) (decimal : ∀ d, motive (.decimal d))
    (date : ∀ d, motive (.date d))
    (list : ∀ items, (∀ item ∈ items, motive item) → motive (.list items))
    (tuple : ∀ items, (∀ item ∈ items, motive item) → motive (.tuple items))
    (dict : ∀ entries : Dict, (∀ entry ∈ entries, motive entry.1 ∧ motive entry.2) →
      motive (.dict entries)) (value : Value) : motive value := by
  induction size : sizeOf value using Nat.strongRecOn generalizing value with
  | ind size inductionHypothesis =>
      cases value with
      | null => exact null
      | bool b => exact bool b
      | int n => exact int n
      | float x => exact float x
      | text s => exact text s
      | decimal d => exact decimal d
      | date d => exact date d
      | list items =>
          refine list items fun item member => inductionHypothesis _ ?_ item rfl
          have smaller := List.sizeOf_lt_of_mem member
          rw [← size, Value.list.sizeOf_spec]
          omega
      | tuple items =>
          refine tuple items fun item member => inductionHypothesis _ ?_ item rfl
          have smaller := List.sizeOf_lt_of_mem member
          rw [← size, Value.tuple.sizeOf_spec]
          omega
      | dict entries =>
          refine dict entries fun entry member => ?_
          have smaller := List.sizeOf_lt_of_mem member
          have parts : sizeOf entry = 1 + sizeOf entry.1 + sizeOf entry.2 := rfl
          have whole := Value.dict.sizeOf_spec entries
          exact ⟨inductionHypothesis _ (by omega) entry.1 rfl,
            inductionHypothesis _ (by omega) entry.2 rfl⟩

/-- Values that hold an integer with more digits than may be written. -/
inductive HoldsLong : Value → Prop
  | int {n : Int} (long : maxDigits < digitCount n.natAbs) : HoldsLong (.int n)
  | list {items : List Value} {item : Value} (member : item ∈ items) (long : HoldsLong item) :
      HoldsLong (.list items)
  | tuple {items : List Value} {item : Value} (member : item ∈ items) (long : HoldsLong item) :
      HoldsLong (.tuple items)
  | key {entries : Dict} {entry : Value × Value} (member : entry ∈ entries)
      (long : HoldsLong entry.1) : HoldsLong (.dict entries)
  | value {entries : Dict} {entry : Value × Value} (member : entry ∈ entries)
      (long : HoldsLong entry.2) : HoldsLong (.dict entries)

theorem holdsLong_int_iff {n : Int} : HoldsLong (.int n) ↔ maxDigits < digitCount n.natAbs := by
  constructor
  · rintro ⟨long⟩
    exact long
  · exact .int

theorem holdsLong_list_iff {items : List Value} :
    HoldsLong (.list items) ↔ ∃ item ∈ items, HoldsLong item := by
  constructor
  · rintro (_ | ⟨member, long⟩)
    exact ⟨_, member, long⟩
  · rintro ⟨item, member, long⟩
    exact .list member long

theorem holdsLong_tuple_iff {items : List Value} :
    HoldsLong (.tuple items) ↔ ∃ item ∈ items, HoldsLong item := by
  constructor
  · rintro (_ | _ | ⟨member, long⟩)
    exact ⟨_, member, long⟩
  · rintro ⟨item, member, long⟩
    exact .tuple member long

theorem holdsLong_dict_iff {entries : Dict} :
    HoldsLong (.dict entries) ↔ ∃ entry ∈ entries, HoldsLong entry.1 ∨ HoldsLong entry.2 := by
  constructor
  · rintro (_ | _ | _ | ⟨member, long⟩ | ⟨member, long⟩)
    · exact ⟨_, member, .inl long⟩
    · exact ⟨_, member, .inr long⟩
  · rintro ⟨entry, member, long | long⟩
    · exact .key member long
    · exact .value member long

theorem failsIf_writeInteger (n : Int) :
    FailsIf (maxDigits < digitCount n.natAbs) .tooLongToWrite (writeInteger n) := by
  rw [writeInteger]
  by_cases short : digitCount n.natAbs ≤ maxDigits
  · rw [if_pos short]
    exact .ok (Nat.not_lt.mpr short) _
  · rw [if_neg short]
    exact .inr ⟨Nat.not_le.mp short, rfl⟩

end RideQuery.Value
