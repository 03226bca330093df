import RideQuery.Intent
import RideQuery.Log.Event
import RideQuery.Proofs.Json.Refusal

/-!
# Texts of events

The name of an event stands in front of its payload, unless the payload has a value of its
own under the key of the name, which then stands there instead.  A plain payload keeps its
entries in their order, and the text of the event is read back as name and payload.
-/

namespace RideQuery.Log

open RideQuery.Number RideQuery.Json

/-! ## Payloads -/

/-- Whether an entry stands for something else than the name of the event. -/
def isOwn (entry : Value × Value) : Bool :=
  !Value.sameKey entry.1 (.text eventKey)

/-- A name with a payload behind it; a name of the payload's own takes its place. -/
def merged (event : String) (payload : Dict) : Dict :=
  (.text eventKey, (Value.lookup? payload eventKey).getD (.text event)) :: payload.filter isOwn

/-- Entries under text keys that are all different. -/
structure HasDistinctKeys (entries : Dict) : Prop where
  keys : ∀ entry ∈ entries, ∃ key, entry.1 = .text key
  distinct : entries.Pairwise fun entry next => Value.sameKey entry.1 next.1 = false

theorem sameKey_text_comm (s t : String) :
    Value.sameKey (.text s) (.text t) = Value.sameKey (.text t) (.text s) := by
  rw [Value.sameKey_text, Value.sameKey_text, Bool.eq_iff_iff, beq_iff_eq, beq_iff_eq]
  exact eq_comm

theorem HasDistinctKeys.of_cons {entry : Value × Value} {entries : Dict}
    (own : HasDistinctKeys (entry :: entries)) :
    HasDistinctKeys entries ∧
      ∀ next ∈ entries, Value.sameKey entry.1 next.1 = false ∧
        Value.sameKey next.1 entry.1 = false := by
  obtain ⟨⟨key, named⟩, keys⟩ := List.forall_mem_cons.mp own.keys
  obtain ⟨apart, distinct⟩ := List.pairwise_cons.mp own.distinct
  refine ⟨⟨keys, distinct⟩, fun next member => ⟨apart next member, ?_⟩⟩
  obtain ⟨other, otherNamed⟩ := keys next member
  have different := apart next member
  rw [named, otherNamed] at different ⊢
  exact (sameKey_text_comm other key).trans different

/-- Entries under different keys come behind the name in order, and one replaces it. -/
theorem foldl_insert_eq {payload : Dict} (own : HasDistinctKeys payload) (name : Value)
    (known : Dict)
    (fresh : ∀ earlier ∈ known, ∀ entry ∈ payload, Value.sameKey earlier.1 entry.1 = false) :
    payload.foldl (fun dict entry => Value.insert dict entry.1 entry.2)
        ((.text eventKey, name) :: known) =
      (.text eventKey, (Value.lookup? payload eventKey).getD name) ::
        (known ++ payload.filter isOwn) := by
  induction payload generalizing name known with
  | nil => simp [Value.lookup?]
  | cons entry payload inductionHypothesis =>
      obtain ⟨rest, apart⟩ := own.of_cons
      obtain ⟨⟨key, named⟩, _⟩ := List.forall_mem_cons.mp own.keys
      have freshRest : ∀ earlier ∈ known, ∀ entry ∈ payload,
          Value.sameKey earlier.1 entry.1 = false := fun earlier member next inside =>
        fresh earlier member next (List.mem_cons_of_mem _ inside)
      obtain ⟨_, value⟩ := entry
      obtain rfl : _ = Value.text key := named
      rw [List.foldl_cons]
      by_cases isName : key = eventKey
      · subst isName
        have replaced : Value.insert ((.text eventKey, name) :: known) (.text eventKey) value =
            (.text eventKey, value) :: known := by simp [Value.insert, Value.sameKey_text]
        have none : Value.lookup? payload eventKey = none := by
          simpa [Value.lookup?] using fun key value inside => (apart (key, value) inside).2
        rw [replaced, inductionHypothesis rest value known freshRest, none]
        simp [Value.lookup?, isOwn, Value.sameKey_text]
      · have appended : Value.insert ((.text eventKey, name) :: known) (.text key) value =
            (.text eventKey, name) :: (known ++ [(.text key, value)]) := by
          have behind : Value.insert known (.text key) value = known ++ [(.text key, value)] :=
            Value.insert_of_fresh fun earlier member =>
              fresh earlier member _ List.mem_cons_self
          simp [Value.insert, Value.sameKey_text, Ne.symm isName, behind]
        have freshMore : ∀ earlier ∈ known ++ [(.text key, value)], ∀ entry ∈ payload,
            Value.sameKey earlier.1 entry.1 = false := by
          intro earlier member next inside
          rcases List.mem_append.mp member with before | last
          · exact freshRest earlier before next inside
          · rw [List.mem_singleton.mp last]
            exact (apart next inside).1
        rw [appended, inductionHypothesis rest name _ freshMore]
        simp [Value.lookup?, isOwn, Value.sameKey_text, isName]

theorem members_eq_merged (event : String) {payload : Dict} (own : HasDistinctKeys payload) :
    members event payload = merged event payload := by
  rw [members, foldl_insert_eq own _ [] (by simp)]
  rfl

/-- Every entry of a payload is a member of the event. -/
theorem mem_members (event : String) {payload : Dict}
    (distinct : payload.Pairwise fun entry next => Value.sameKey entry.1 next.1 = false)
    {entry : Value × Value} (member : entry ∈ payload) : entry ∈ members event payload := by
  refine Value.mem_foldl_insert distinct ?_ (.inl member)
  rintro earlier (_ | ⟨_, none⟩)
  · exact .inl ⟨eventKey, rfl⟩
  · contradiction

/-! ## Plain events -/

theorem isPlain_ofOption (nesting : Nat) (text : Option String) :
    IsPlain nesting (.ofOption text) := by
  cases text with
  | none => exact .null
  | some text => exact .text text

/-- A plain payload with a name is as plain as it is. -/
theorem isPlain_merged {nesting : Nat} (event : String) {payload : Dict}
    (plain : IsPlain nesting (.dict payload)) :
    IsPlain nesting (.dict (merged event payload)) := by
  cases plain with
  | dict keys distinct members =>
      refine .dict ?_ ?_ ?_
      · rw [merged, List.forall_mem_cons]
        exact ⟨⟨eventKey, rfl⟩, fun entry member => keys entry (List.mem_of_mem_filter member)⟩
      · rw [merged, List.pairwise_cons]
        refine ⟨fun entry member => ?_, distinct.filter _⟩
        obtain ⟨inside, apart⟩ := List.mem_filter.mp member
        obtain ⟨key, named⟩ := keys entry inside
        rw [isOwn, named, Bool.not_eq_true'] at apart
        rw [named, sameKey_text_comm]
        exact apart
      · rw [merged, List.forall_mem_cons]
        refine ⟨?_, fun entry member => members entry (List.mem_of_mem_filter member)⟩
        cases found : payload.find? fun entry => Value.sameKey entry.1 (.text eventKey) with
        | none => simpa [Value.lookup?, found] using IsPlain.text event
        | some entry =>
            simpa [Value.lookup?, found] using members entry (List.mem_of_find?_eq_some found)

theorem hasDistinctKeys_of_isPlain {nesting : Nat} {payload : Dict}
    (plain : IsPlain nesting (.dict payload)) : HasDistinctKeys payload := by
  cases plain with
  | dict keys distinct _ => exact ⟨keys, distinct⟩

/-- The text of a plain event is one line and is read back as its name and its payload. -/
theorem exists_eventText_of_isPlain {nesting : Nat} {room : Room} (event : String) {payload : Dict}
    (plain : IsPlain nesting (.dict payload)) (fits : nesting ≤ room.writing) :
    ∃ text, eventText room event payload = .ok text ∧
      IsReadAs nesting text (.dict (merged event payload)) := by
  obtain ⟨text, written, _, read⟩ := exists_write_of_isPlain (isPlain_merged event plain) fits
  refine ⟨text, ?_, read⟩
  rw [eventText, members_eq_merged event (hasDistinctKeys_of_isPlain plain), written]

end RideQuery.Log
