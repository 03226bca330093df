import RideQuery.Proofs.Json.RoundTrip
import RideQuery.Proofs.Value.Long

/-!
# What keeps values from being written

A value is written by coming across its parts one after the other: a collection before its
members, and a key before the value under it.  Some parts are refused, and then the value fails
with the first refusal.  Where the entries keep their order, which parts are refused depends on
nothing but the parts and on how many collections there are around them.
-/

namespace RideQuery.Json

open RideQuery.Number RideQuery.Value

/-! ## Parts -/

/-- A part that is come across when a value is written. -/
structure Visit where
  /-- How many collections there are around it. -/
  depth : Nat
  /-- Whether it is a key. -/
  isKey : Bool
  value : Value

mutual

/-- The parts of a value with so many collections around it, in the order of writing. -/
def visits (depth : Nat) : Value → List Visit
  | .list items => ⟨depth, false, .list items⟩ :: visitsOfItems (depth + 1) items
  | .tuple items => ⟨depth, false, .tuple items⟩ :: visitsOfItems (depth + 1) items
  | .dict entries => ⟨depth, false, .dict entries⟩ :: visitsOfEntries (depth + 1) entries
  | value => [⟨depth, false, value⟩]

/-- The parts of the members of a list. -/
def visitsOfItems (depth : Nat) : List Value → List Visit
  | [] => []
  | item :: rest => visits depth item ++ visitsOfItems depth rest

/-- The parts of the entries of a dictionary. -/
def visitsOfEntries (depth : Nat) : List (Value × Value) → List Visit
  | [] => []
  | (key, value) :: rest =>
    ⟨depth, true, key⟩ :: (visits depth value ++ visitsOfEntries depth rest)

end

theorem visitsOfItems_eq_flatMap (depth : Nat) (items : List Value) :
    visitsOfItems depth items = items.flatMap (visits depth) := by
  induction items with
  | nil => rfl
  | cons item items inductionHypothesis =>
      rw [visitsOfItems, inductionHypothesis, List.flatMap_cons]

/-- The parts of an entry: its key, and those of its value. -/
def visitsOfEntry (depth : Nat) (entry : Value × Value) : List Visit :=
  ⟨depth, true, entry.1⟩ :: visits depth entry.2

theorem visitsOfEntries_eq_flatMap (depth : Nat) (entries : Dict) :
    visitsOfEntries depth entries = entries.flatMap (visitsOfEntry depth) := by
  induction entries with
  | nil => rfl
  | cons entry entries inductionHypothesis =>
      obtain ⟨key, value⟩ := entry
      rw [visitsOfEntries, inductionHypothesis, List.flatMap_cons, visitsOfEntry, List.cons_append]

theorem mem_visitsOfItems {depth : Nat} {items : List Value} {item : Value} {visit : Visit}
    (member : item ∈ items) (inside : visit ∈ visits depth item) :
    visit ∈ visitsOfItems depth items := by
  rw [visitsOfItems_eq_flatMap]
  exact List.mem_flatMap.mpr ⟨item, member, inside⟩

theorem mem_visitsOfEntries {depth : Nat} {entries : Dict} {entry : Value × Value} {visit : Visit}
    (member : entry ∈ entries) (inside : visit ∈ visitsOfEntry depth entry) :
    visit ∈ visitsOfEntries depth entries := by
  rw [visitsOfEntries_eq_flatMap]
  exact List.mem_flatMap.mpr ⟨entry, member, inside⟩

/-! ## Refusals -/

/-- The refusal of an integer. -/
def integerRefusal? (n : Int) : Option WriteError :=
  if digitCount n.natAbs ≤ maxDigits then none else some (.number .tooLongToWrite)

/-- The refusal of a key: texts, truth values and numbers are the only ones there are. -/
def keyRefusal? (style : Style) : Value → Option WriteError
  | .null | .bool _ | .float _ | .text _ => none
  | .int n => integerRefusal? n
  | key => some (.badKey (style.keyTypeName key))

/-- The refusal of a decimal or a date with so many places left for the calls that handle it. -/
def foreignRefusal? (style : Style) (left : Nat) (value : Value) : Option WriteError :=
  match (style.foreign.calls value)[left]? with
  | some activity => some (.tooDeep activity)
  | none => if style.foreign = .refuse then some (.notSerializable value.typeName) else none

/-- The refusal of a collection inside others, where so many have room inside each other. -/
def collectionRefusal? (room depth : Nat) : Option WriteError :=
  if depth < room then none else some (.tooDeep .encoding)

/-- The refusal of a part, where so many collections have room inside each other. -/
def Visit.refusal? (style : Style) (room : Nat) (visit : Visit) : Option WriteError :=
  match visit.isKey, visit.value with
  | true, key => keyRefusal? style key
  | false, .null | false, .bool _ | false, .float _ | false, .text _ => none
  | false, .int n => integerRefusal? n
  | false, .list _ | false, .tuple _ | false, .dict _ => collectionRefusal? room visit.depth
  | false, .decimal d => foreignRefusal? style (room - visit.depth) (.decimal d)
  | false, .date d => foreignRefusal? style (room - visit.depth) (.date d)

/-- The first refusal that a value meets when it is written. -/
def firstRefusal? (style : Style) (room : Nat) (value : Value) : Option WriteError :=
  (visits 0 value).findSome? (Visit.refusal? style room)

/-! ## Members as they are written -/

section Members

variable (style : Style) (level room : Nat)

theorem writeItems_eq_mapM (items : List Value) :
    writeItems style level room items = items.mapM (writeAt style level room) := by
  induction items with
  | nil => rfl
  | cons item items inductionHypothesis =>
      rw [writeItems, inductionHypothesis, List.mapM_cons]
      rfl

/-- An entry with its key, as it is written. -/
def writeEntry (entry : Value × Value) : Except WriteError (Value × List Char) := do
  let name ← keyText style entry.1
  let written ← writeAt style level room entry.2
  .ok (entry.1, writeText style.ascii name ++ style.colon ++ written)

theorem writeEntries_eq_mapM (entries : Dict) :
    writeEntries style level room entries = entries.mapM (writeEntry style level room) := by
  induction entries with
  | nil => rfl
  | cons entry entries inductionHypothesis =>
      obtain ⟨key, value⟩ := entry
      rw [writeEntries, inductionHypothesis, List.mapM_cons, writeEntry]
      simp only [bind_assoc]
      rfl

end Members

/-! ## Values fail with their first refusals -/

/-- Runs that fail with a refusal if there is one. -/
def Heeds {α : Type} (refusal? : Option WriteError) (run : Except WriteError α) : Prop :=
  FailsFirst refusal?.toList run

theorem heeds_writeInt (n : Int) : Heeds (integerRefusal? n) (writeInt n) := by
  rw [writeInt, writeInteger, integerRefusal?]
  by_cases short : digitCount n.natAbs ≤ maxDigits
  · rw [if_pos short, if_pos short]
    exact .ok _
  · rw [if_neg short, if_neg short]
    exact .error _ []

theorem heeds_keyText (style : Style) (key : Value) :
    Heeds (keyRefusal? style key) (keyText style key) := by
  cases key with
  | null | bool | float | text => exact .ok _
  | int n => exact heeds_writeInt n
  | list | tuple | dict | decimal | date => exact .error _ []

theorem heeds_foreignText (style : Style) (left : Nat) {value : Value}
    (isForeign : (∃ d, value = .decimal d) ∨ ∃ d, value = .date d) :
    Heeds (foreignRefusal? style left value) (style.foreignText left value) := by
  unfold foreignRefusal? Style.foreignText
  cases (style.foreign.calls value)[left]? with
  | some activity => exact .error _ []
  | none =>
      rcases isForeign with ⟨d, rfl⟩ | ⟨d, rfl⟩
      · cases style.foreign with
        | refuse => exact .error _ []
        | display | web => exact .ok _
      · cases style.foreign with
        | refuse => exact .error _ []
        | display | web => exact .ok _

variable {style : Style}

theorem ordered_eq_ok (unsorted : style.sorted = false) (entries : List (Value × List Char)) :
    style.ordered entries = .ok entries := by
  rw [Style.ordered, unsorted, if_neg Bool.false_ne_true]

theorem filterMap_cons_toList {α β : Type} (f : α → Option β) (first : α) (rest : List α) :
    (first :: rest).filterMap f = (f first).toList ++ rest.filterMap f := by
  cases found : f first with
  | none => rw [List.filterMap_cons_none found, Option.toList_none, List.nil_append]
  | some image => rw [List.filterMap_cons_some found, Option.toList_some, List.singleton_append]

/-- A part that holds no others is all that there is to refuse. -/
theorem failsFirst_of_single {α : Type} {visit : Visit} {total : Nat} {run : Except WriteError α}
    (heeds : Heeds (visit.refusal? style total) run) :
    FailsFirst ([visit].filterMap (Visit.refusal? style total)) run := by
  rwa [filterMap_cons_toList, List.filterMap_nil, List.append_nil]

/-- A collection without room is refused before its members are come across. -/
theorem failsFirst_of_noRoom {α : Type} {visit : Visit} {depth total : Nat} {members : List Visit}
    (collection : visit.refusal? style total = collectionRefusal? total depth)
    (whole : depth + 0 = total) :
    FailsFirst ((visit :: members).filterMap (Visit.refusal? style total))
      (.error (.tooDeep .encoding) : Except WriteError α) := by
  rw [collectionRefusal?, if_neg (by omega)] at collection
  rw [List.filterMap_cons_some collection]
  exact .error _ _

/-- A collection with room is no hindrance to its members. -/
theorem filterMap_of_room {visit : Visit} {depth total inside : Nat} {members : List Visit}
    (collection : visit.refusal? style total = collectionRefusal? total depth)
    (whole : depth + (inside + 1) = total) :
    (visit :: members).filterMap (Visit.refusal? style total) =
      members.filterMap (Visit.refusal? style total) := by
  rw [collectionRefusal?, if_pos (by omega)] at collection
  exact List.filterMap_cons_none collection

/-- Where the entries keep their order, a value fails with the first refusal of its parts. -/
theorem failsFirst_writeAt (unsorted : style.sorted = false) (level : Nat) {depth room total : Nat}
    (value : Value) (whole : depth + room = total) :
    FailsFirst ((visits depth value).filterMap (Visit.refusal? style total))
      (writeAt style level room value) := by
  induction value using memberInduction generalizing level depth room with
  | list items inductionHypothesis =>
      cases room with
      | zero => exact failsFirst_of_noRoom rfl whole
      | succ inside =>
          rw [visits, filterMap_of_room rfl whole, visitsOfItems_eq_flatMap, List.filterMap_flatMap,
            writeAt_list, writeItems_eq_mapM]
          exact (FailsFirst.mapM fun item member =>
            inductionHypothesis item member (level + 1) (by omega)).andThen
  | tuple items inductionHypothesis =>
      cases room with
      | zero => exact failsFirst_of_noRoom rfl whole
      | succ inside =>
          rw [visits, filterMap_of_room rfl whole, visitsOfItems_eq_flatMap, List.filterMap_flatMap,
            writeAt_tuple, writeItems_eq_mapM]
          exact (FailsFirst.mapM fun item member =>
            inductionHypothesis item member (level + 1) (by omega)).andThen
  | dict entries inductionHypothesis =>
      cases room with
      | zero => exact failsFirst_of_noRoom rfl whole
      | succ inside =>
          have steps : ∀ entry ∈ entries, FailsFirst
              ((visitsOfEntry (depth + 1) entry).filterMap (Visit.refusal? style total))
              (writeEntry style (level + 1) inside entry) := by
            intro entry member
            rw [visitsOfEntry, filterMap_cons_toList]
            exact (heeds_keyText style entry.1).bind fun _ _ =>
              ((inductionHypothesis entry member).2 (level + 1) (by omega)).andThen
          rw [visits, filterMap_of_room rfl whole, visitsOfEntries_eq_flatMap, List.filterMap_flatMap,
            writeAt_dict, writeEntries_eq_mapM, funext (ordered_eq_ok unsorted)]
          exact (FailsFirst.mapM steps).andThen.andThen
  | int n => exact failsFirst_of_single (heeds_writeInt n)
  | decimal d =>
      obtain rfl : room = total - depth := by omega
      exact failsFirst_of_single (heeds_foreignText style (total - depth) (.inl ⟨d, rfl⟩))
  | date d =>
      obtain rfl : room = total - depth := by omega
      exact failsFirst_of_single (heeds_foreignText style (total - depth) (.inr ⟨d, rfl⟩))
  | _ => exact .ok _

/-- What is written fails with the first refusal that it meets, and is a text if it meets none. -/
theorem failsFirst_write (unsorted : style.sorted = false) (room : Nat) (value : Value) :
    FailsFirst ((visits 0 value).filterMap (Visit.refusal? style room)) (write style room value) :=
  (failsFirst_writeAt unsorted 0 value (Nat.zero_add room)).andThen

theorem write_eq_error_iff (unsorted : style.sorted = false) {room : Nat} {value : Value}
    {refusal : WriteError} :
    write style room value = .error refusal ↔ firstRefusal? style room value = some refusal := by
  rw [(failsFirst_write unsorted room value).eq_error_iff, List.head?_filterMap, firstRefusal?]

theorem exists_write_iff (unsorted : style.sorted = false) {room : Nat} {value : Value} :
    (∃ text, write style room value = .ok text) ↔ firstRefusal? style room value = none := by
  rw [(failsFirst_write unsorted room value).exists_ok_iff, ← List.head?_eq_none_iff,
    List.head?_filterMap, firstRefusal?]

/-! ## Integers that are too long -/

theorem integerRefusal?_ne_none {n : Int} (long : maxDigits < digitCount n.natAbs) :
    integerRefusal? n ≠ none := by
  rw [integerRefusal?, if_neg (Nat.not_le.mpr long)]
  exact Option.some_ne_none _

/-- Keys that hold members are no keys, be they too long or not. -/
theorem keyRefusal?_ne_none_of_holdsLong {key : Value} (long : HoldsLong key) :
    keyRefusal? style key ≠ none := by
  cases long with
  | int long => exact integerRefusal?_ne_none long
  | list | tuple | key | value => exact Option.some_ne_none _

/-- An integer that is too long is refused wherever it lies, unless something around it is. -/
theorem exists_refusal_of_holdsLong {value : Value} (long : HoldsLong value) (room depth : Nat) :
    ∃ visit ∈ visits depth value, visit.refusal? style room ≠ none := by
  induction long generalizing depth with
  | int long => exact ⟨_, List.mem_cons_self, integerRefusal?_ne_none long⟩
  | list member _ inductionHypothesis | tuple member _ inductionHypothesis =>
      obtain ⟨visit, inside, refused⟩ := inductionHypothesis (depth + 1)
      exact ⟨visit, List.mem_cons_of_mem _ (mem_visitsOfItems member inside), refused⟩
  | key member long _ =>
      refine ⟨_, List.mem_cons_of_mem _ (mem_visitsOfEntries member List.mem_cons_self), ?_⟩
      exact keyRefusal?_ne_none_of_holdsLong long
  | value member _ inductionHypothesis =>
      obtain ⟨visit, inside, refused⟩ := inductionHypothesis (depth + 1)
      exact ⟨visit, List.mem_cons_of_mem _
        (mem_visitsOfEntries member (List.mem_cons_of_mem _ inside)), refused⟩

theorem firstRefusal?_ne_none_of_holdsLong {value : Value} (long : HoldsLong value) (room : Nat) :
    firstRefusal? style room value ≠ none := by
  obtain ⟨visit, inside, isRefused⟩ := exists_refusal_of_holdsLong long room 0
  intro none
  exact isRefused (List.findSome?_eq_none_iff.mp none visit inside)

/-! ## Plain values -/

end RideQuery.Json
