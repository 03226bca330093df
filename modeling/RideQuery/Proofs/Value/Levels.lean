import RideQuery.Proofs.Value.Long

/-!
# Levels of values

A value is displayed level by level, and where the room is limited, it is displayed exactly if
there is room for all of its levels and none of its integers is too long to be written.
-/

namespace RideQuery.Value

open RideQuery.Number

mutual

/-- How many levels a value has: one of its own, and those of its deepest member. -/
def levels : Value → Nat
  | .list items => levelsOfItems items + 1
  | .tuple items => levelsOfItems items + 1
  | .dict entries => levelsOfEntries entries + 1
  | _ => 1

/-- How many levels the deepest of some values has. -/
def levelsOfItems : List Value → Nat
  | [] => 0
  | item :: rest => max (levels item) (levelsOfItems rest)

/-- How many levels the deepest key or value of some entries has. -/
def levelsOfEntries : List (Value × Value) → Nat
  | [] => 0
  | (key, value) :: rest => max (max (levels key) (levels value)) (levelsOfEntries rest)

end

theorem levelsOfItems_le_iff {items : List Value} {room : Nat} :
    levelsOfItems items ≤ room ↔ ∀ item ∈ items, item.levels ≤ room := by
  induction items with
  | nil => simp [levelsOfItems]
  | cons item items inductionHypothesis =>
      rw [levelsOfItems, Nat.max_le, inductionHypothesis, List.forall_mem_cons]

theorem levelsOfEntries_le_iff {entries : Dict} {room : Nat} :
    levelsOfEntries entries ≤ room ↔
      ∀ entry ∈ entries, entry.1.levels ≤ room ∧ entry.2.levels ≤ room := by
  induction entries with
  | nil => simp [levelsOfEntries]
  | cons entry entries inductionHypothesis =>
      obtain ⟨key, value⟩ := entry
      rw [levelsOfEntries, Nat.max_le, Nat.max_le, inductionHypothesis, List.forall_mem_cons]

/-- Whether a value can be displayed where so many levels have room. -/
def Fits (room : Nat) (value : Value) : Prop :=
  ¬HoldsLong value ∧ value.levels ≤ room

theorem fits_list_iff {room : Nat} {items : List Value} :
    Fits (room + 1) (.list items) ↔ ∀ item ∈ items, Fits room item := by
  simp only [Fits, holdsLong_list_iff, levels, Nat.add_le_add_iff_right, levelsOfItems_le_iff,
    not_exists, not_and, ← forall_and]

theorem fits_tuple_iff {room : Nat} {items : List Value} :
    Fits (room + 1) (.tuple items) ↔ ∀ item ∈ items, Fits room item := by
  simp only [Fits, holdsLong_tuple_iff, levels, Nat.add_le_add_iff_right, levelsOfItems_le_iff,
    not_exists, not_and, ← forall_and]

theorem fits_dict_iff {room : Nat} {entries : Dict} :
    Fits (room + 1) (.dict entries) ↔ ∀ entry ∈ entries, Fits room entry.1 ∧ Fits room entry.2 := by
  simp only [Fits, holdsLong_dict_iff, levels, Nat.add_le_add_iff_right, levelsOfEntries_le_iff,
    not_exists, not_and, not_or, ← forall_and]
  exact forall₂_congr fun entry _ => by tauto

theorem fits_int_iff {room : Nat} {n : Int} :
    Fits (room + 1) (.int n) ↔ digitCount n.natAbs ≤ maxDigits := by
  simp [Fits, holdsLong_int_iff, levels]

theorem fits_text (room : Nat) (s : String) : Fits (room + 1) (.text s) := by
  refine ⟨?_, Nat.le_add_left 1 room⟩
  rintro ⟨⟩

theorem levels_pos (value : Value) : 0 < value.levels := by
  cases value <;> exact Nat.succ_pos _

theorem not_fits_zero (value : Value) : ¬Fits 0 value :=
  fun fits => absurd fits.2 (Nat.not_le.mpr value.levels_pos)

/-! ## Displays in limited room -/

/-- What is displayed takes a level of the room, and the rest is left to what is inside. -/
theorem exists_inspectWithin_iff_of_inside {value : Value}
    (inside : ∀ room, (∃ text, inspectInside .limited room value = .ok text) ↔
      Fits (room + 1) value) (room : Nat) :
    (∃ text, value.inspectWithin room = .ok text) ↔ Fits room value := by
  cases room with
  | zero =>
      refine iff_of_false ?_ (not_fits_zero value)
      rintro ⟨text, shown⟩
      contradiction
  | succ room => exact inside room

theorem exists_inspectEntry_iff {room : Nat} {entry : Value × Value} :
    (∃ text, inspectEntry .limited room entry = .ok text) ↔
      (∃ text, entry.1.inspectWithin room = .ok text) ∧
        ∃ text, entry.2.inspectWithin room = .ok text := by
  simp only [inspectEntry, inspectWithin]
  cases inspectWith .limited room entry.1 <;> cases inspectWith .limited room entry.2 <;>
    simp [Bind.bind, Except.bind]

/-- A value is displayed where so many levels have room exactly if it fits there. -/
theorem exists_inspectWithin_iff {room : Nat} {value : Value} :
    (∃ text, value.inspectWithin room = .ok text) ↔ Fits room value := by
  induction value using memberInduction generalizing room with
  | list items inductionHypothesis =>
      refine exists_inspectWithin_iff_of_inside (fun room => ?_) room
      rw [inspectInside_list, fits_list_iff]
      refine exists_bind_pure_eq_ok_iff.trans (exists_mapM_eq_ok_iff.trans ?_)
      exact forall₂_congr fun item member => inductionHypothesis item member
  | tuple items inductionHypothesis =>
      refine exists_inspectWithin_iff_of_inside (fun room => ?_) room
      rw [inspectInside_tuple, fits_tuple_iff]
      refine exists_bind_pure_eq_ok_iff.trans (exists_mapM_eq_ok_iff.trans ?_)
      exact forall₂_congr fun item member => inductionHypothesis item member
  | dict entries inductionHypothesis =>
      refine exists_inspectWithin_iff_of_inside (fun room => ?_) room
      rw [inspectInside_dict, fits_dict_iff]
      refine exists_bind_pure_eq_ok_iff.trans (exists_mapM_eq_ok_iff.trans ?_)
      refine forall₂_congr fun entry member => ?_
      obtain ⟨key, value⟩ := inductionHypothesis entry member
      exact exists_inspectEntry_iff.trans (and_congr key value)
  | int n =>
      refine exists_inspectWithin_iff_of_inside (fun room => ?_) room
      rw [fits_int_iff, inspectInside, writeInteger]
      by_cases short : digitCount n.natAbs ≤ maxDigits
      · rw [if_pos short]
        exact iff_of_true ⟨_, rfl⟩ short
      · rw [if_neg short]
        refine iff_of_false ?_ short
        rintro ⟨text, shown⟩
        contradiction
  | _ =>
      refine exists_inspectWithin_iff_of_inside (fun room => ?_) room
      refine iff_of_true ⟨_, rfl⟩ ⟨?_, Nat.le_add_left 1 room⟩
      rintro ⟨⟩

/-- Every value has a level of its own, so that something is left for what is inside. -/
theorem failsIf_inspectWithin_of_inside {value : Value}
    (inside : ∀ room, value.levels ≤ room + 1 → FailsIf (HoldsLong value)
      (.number .tooLongToWrite) (inspectInside .limited room value)) {room : Nat}
    (deep : value.levels ≤ room) :
    FailsIf (HoldsLong value) (.number .tooLongToWrite) (value.inspectWithin room) := by
  obtain ⟨left, rfl⟩ := Nat.exists_eq_add_one.mpr (Nat.lt_of_lt_of_le value.levels_pos deep)
  exact inside left deep

/-- Where there is room for all levels, only integers that are too long keep a value from display. -/
theorem failsIf_inspectWithin {room : Nat} {value : Value} (deep : value.levels ≤ room) :
    FailsIf (HoldsLong value) (.number .tooLongToWrite) (value.inspectWithin room) := by
  induction value using memberInduction generalizing room with
  | list items inductionHypothesis =>
      refine failsIf_inspectWithin_of_inside (fun inside deep => ?_) deep
      have members := levelsOfItems_le_iff.mp (Nat.le_of_succ_le_succ deep)
      rw [inspectInside_list]
      refine FailsIf.congr ?_ holdsLong_list_iff
      exact (FailsIf.mapM fun item member =>
        inductionHypothesis item member (members item member)).andThen
  | tuple items inductionHypothesis =>
      refine failsIf_inspectWithin_of_inside (fun inside deep => ?_) deep
      have members := levelsOfItems_le_iff.mp (Nat.le_of_succ_le_succ deep)
      rw [inspectInside_tuple]
      refine FailsIf.congr ?_ holdsLong_tuple_iff
      exact (FailsIf.mapM fun item member =>
        inductionHypothesis item member (members item member)).andThen
  | dict entries inductionHypothesis =>
      refine failsIf_inspectWithin_of_inside (fun inside deep => ?_) deep
      have members := levelsOfEntries_le_iff.mp (Nat.le_of_succ_le_succ deep)
      have steps : ∀ entry ∈ entries, FailsIf (HoldsLong entry.1 ∨ HoldsLong entry.2)
          (.number .tooLongToWrite) (inspectEntry .limited inside entry) := by
        intro entry member
        obtain ⟨key, value⟩ := inductionHypothesis entry member
        obtain ⟨keyDeep, valueDeep⟩ := members entry member
        exact (key keyDeep).bind fun _ _ => (value valueDeep).andThen
      rw [inspectInside_dict]
      exact (FailsIf.mapM steps).andThen.congr holdsLong_dict_iff
  | int n =>
      refine failsIf_inspectWithin_of_inside (fun inside _ => ?_) deep
      exact ((failsIf_writeInteger n).mapError DisplayError.number).congr holdsLong_int_iff
  | _ =>
      refine failsIf_inspectWithin_of_inside (fun inside _ => .ok ?_ _) deep
      rintro ⟨⟩

/-- A value that there is no room for has as many levels as there are places, or more. -/
theorem le_levels_of_plainWithin {room : Nat} {value : Value} {activity : Activity}
    (failed : value.plainWithin room = .error (.tooDeep activity)) : room ≤ value.levels := by
  cases room with
  | zero => exact Nat.zero_le _
  | succ inside =>
      by_contra shallow
      have fits : value.levels ≤ inside + 1 := by omega
      have display : value.inspectWithin (inside + 1) ≠ .error (.tooDeep activity) := by
        intro deep
        rcases failsIf_inspectWithin fits with ⟨_, text, shown⟩ | ⟨_, long⟩
        · exact nomatch shown.symm.trans deep
        · exact nomatch long.symm.trans deep
      cases value with
      | null | bool | int | float | list | tuple | dict => exact display failed
      | text | decimal => contradiction
      | date d =>
          cases inside with
          | zero => exact shallow (Nat.le_refl 1)
          | succ deeper => contradiction

/-- Whether a value holds an integer that is too long is seen by displaying it. -/
instance (value : Value) : Decidable (HoldsLong value) :=
  decidable_of_iff ((value.inspectWithin value.levels).isOk = false) <| by
    rcases failsIf_inspectWithin (Nat.le_refl value.levels) with ⟨short, shown, same⟩ | ⟨long, failed⟩
    · refine iff_of_false ?_ short
      rw [same]
      exact Bool.noConfusion
    · exact iff_of_true (by rw [failed]; rfl) long

theorem exists_inspectWithin_ofOption (text : Option String) {room : Nat} (fits : 0 < room) :
    ∃ shown, (ofOption text).inspectWithin room = .ok shown := by
  obtain ⟨inside, rfl⟩ := Nat.exists_eq_add_one_of_ne_zero (Nat.ne_zero_of_lt fits)
  cases text with
  | none => exact ⟨"None", rfl⟩
  | some text => exact ⟨Text.quote text, rfl⟩

end RideQuery.Value
