import RideQuery.Proofs.Log.Line
import RideQuery.Proofs.Number.Shortest
import RideQuery.Proofs.Value.Levels

/-!
# Announcements of any payload

Whatever its payload is made from, an announcement becomes one line if the logger lets it
through and nothing if not.  JSON's refusals do no harm, since what it refuses is shown for
inspection instead.  An integer that is too long to be written is refused by both, and then
the announcement fails, even where the logger would not have let it through.  It also fails
where the payload is too deep for the room that there is.
-/

namespace RideQuery.Log

open RideQuery.Number RideQuery.Json RideQuery.Answer RideQuery.Value

/-! ## Texts of events -/

/-- Why there is too little room to put an event into words. -/
inductive EventLacksRoom (room : Room) (event : String) (payload : Dict) : Prop
  /-- The first part of the event that JSON refuses is refused for want of room. -/
  | writing {activity : Activity}
      (first : firstRefusal? Style.log room.writing (.dict (members event payload)) =
        some (.tooDeep activity))
  /-- JSON refuses a part of the event, and the payload has more levels than can be shown. -/
  | showing {refusal : WriteError}
      (refused : firstRefusal? Style.log room.writing (.dict (members event payload)) =
        some refusal)
      (deep : room.showing < (Value.dict payload).levels)

/-- What JSON refuses for any other reason than want of room is shown for inspection. -/
theorem eventText_of_refusal {room : Room} {event : String} {payload : Dict}
    {refusal : WriteError}
    (refused : firstRefusal? Style.log room.writing (.dict (members event payload)) =
      some refusal)
    (otherwise : ∀ activity, refusal ≠ .tooDeep activity) :
    eventText room event payload =
      ((Value.dict payload).inspectWithin room.showing >>= fun shown =>
        .ok (event ++ ": " ++ shown)) := by
  rw [eventText, (write_eq_error_iff rfl).mpr refused]
  cases refusal with
  | tooDeep activity => exact absurd rfl (otherwise activity)
  | number | notSerializable | badKey | incomparableKeys => rfl

theorem eventText_of_tooDeep {room : Room} {event : String} {payload : Dict} {activity : Activity}
    (first : firstRefusal? Style.log room.writing (.dict (members event payload)) =
      some (.tooDeep activity)) :
    eventText room event payload = .error (.tooDeep activity) := by
  rw [eventText, (write_eq_error_iff rfl).mpr first]

/-- Without enough room, an event is not put into words. -/
theorem exists_eventText_eq_error {room : Room} {event : String} {payload : Dict}
    (lacks : EventLacksRoom room event payload) :
    ∃ failure, eventText room event payload = .error failure := by
  obtain ⟨first⟩ | ⟨refused, deep⟩ := lacks
  · exact ⟨_, eventText_of_tooDeep first⟩
  · rename_i refusal
    by_cases tooDeep : ∃ activity, refusal = .tooDeep activity
    · obtain ⟨activity, rfl⟩ := tooDeep
      exact ⟨_, eventText_of_tooDeep refused⟩
    · rw [eventText_of_refusal refused (not_exists.mp tooDeep)]
      cases shown : (Value.dict payload).inspectWithin room.showing with
      | error failure => exact ⟨failure, rfl⟩
      | ok text =>
          obtain ⟨_, fits⟩ := exists_inspectWithin_iff.mp ⟨text, shown⟩
          exact absurd deep (Nat.not_lt.mpr fits)

/-- With enough room, an event fails for integers that are too long, and for nothing else. -/
theorem failsIf_eventText {room : Room} {event : String} {payload : Dict}
    (distinct : payload.Pairwise fun entry next => sameKey entry.1 next.1 = false)
    (roomy : ¬EventLacksRoom room event payload) :
    FailsIf (HoldsLong (.dict payload)) (.number .tooLongToWrite)
      (eventText room event payload) := by
  cases first : firstRefusal? Style.log room.writing (.dict (members event payload)) with
  | none =>
      obtain ⟨text, written⟩ := (exists_write_iff rfl).mpr first
      rw [eventText, written]
      refine .ok (fun long => ?_) text
      obtain ⟨entry, member, holds⟩ := holdsLong_dict_iff.mp long
      have whole : HoldsLong (.dict (members event payload)) :=
        holdsLong_dict_iff.mpr ⟨entry, mem_members event distinct member, holds⟩
      exact firstRefusal?_ne_none_of_holdsLong whole room.writing first
  | some refusal =>
      have otherwise : ∀ activity, refusal ≠ .tooDeep activity := by
        rintro activity rfl
        exact roomy (.writing first)
      have fits : (Value.dict payload).levels ≤ room.showing :=
        Nat.not_lt.mp fun deep => roomy (.showing first deep)
      rw [eventText_of_refusal first otherwise]
      exact (failsIf_inspectWithin fits).andThen

/-! ## Lines -/

namespace Announcement

/-- Whether there is too little room for an announcement: for its event, or for its line. -/
inductive LacksRoom (announcement : Announcement) (outer inner : Room) : Prop
  | event (lacks : EventLacksRoom outer announcement.event announcement.payload)
  | line (enabled : isEnabled announcement.threshold announcement.level = true)
      (none : inner.writing = 0)

/-- What is written is the line of the message if the logger lets it through, or nothing. -/
inductive IsRecord (announcement : Announcement) (outer : Room) : String → Prop
  | line {message line : String}
      (enabled : isEnabled announcement.threshold announcement.level = true)
      (worded : eventText outer announcement.event announcement.payload = .ok message)
      (isLine : announcement.IsLineOf message line) : IsRecord announcement outer line
  | nothing (disabled : isEnabled announcement.threshold announcement.level = false) :
      IsRecord announcement outer ""

/-- A message that is known is written where there is room, if its level can be named. -/
theorem failsIf_written_of_eventText {announcement : Announcement} {outer inner : Room}
    {message : String}
    (worded : eventText outer announcement.event announcement.payload = .ok message)
    (clock : IsFinite (announcement.time * 1000)) (roomy : ¬announcement.LacksRoom outer inner) :
    FailsIf (isEnabled announcement.threshold announcement.level = true ∧
        HoldsLong (.int announcement.level.number)) (.number .tooLongToWrite)
      (announcement.written outer inner) := by
  cases enabled : isEnabled announcement.threshold announcement.level with
  | true =>
      have room : inner.writing ≠ 0 := fun none => roomy (.line enabled none)
      obtain ⟨fails, _⟩ := announcement.failsIf_lineOrNothing inner message clock
      obtain ⟨line, lined⟩ := fails.exists_ok room
      rw [written_of_isEnabled inner enabled worded clock, lined]
      refine ((failsIf_writeInteger _).mapError DisplayError.number).andThen.congr ?_
      rw [and_iff_right rfl, holdsLong_int_iff]
  | false =>
      rw [written_of_disabled inner enabled worded]
      exact .ok (fun named => Bool.noConfusion named.1) ""

/-- Without enough room, nothing is written. -/
theorem exists_written_eq_error {announcement : Announcement} {outer inner : Room}
    (clock : IsFinite (announcement.time * 1000)) (lacks : announcement.LacksRoom outer inner) :
    ∃ failure, announcement.written outer inner = .error failure := by
  cases worded : eventText outer announcement.event announcement.payload with
  | error failure => exact ⟨failure, written_of_error inner worded⟩
  | ok message =>
      obtain ⟨lacks⟩ | ⟨enabled, none⟩ := lacks
      · obtain ⟨failure, failed⟩ := exists_eventText_eq_error lacks
        rw [worded] at failed
        contradiction
      · obtain ⟨fails, _⟩ := announcement.failsIf_lineOrNothing inner message clock
        rw [written_of_isEnabled inner enabled worded clock, fails.eq_error none]
        cases (writeInteger announcement.level.number).mapError DisplayError.number with
        | error failure => exact ⟨failure, rfl⟩
        | ok name => exact ⟨_, rfl⟩

/-- What is written is a record. -/
theorem isRecord_of_written {announcement : Announcement} {outer inner : Room} {text : String}
    (clock : IsFinite (announcement.time * 1000))
    (done : announcement.written outer inner = .ok text) :
    announcement.IsRecord outer text := by
  cases worded : eventText outer announcement.event announcement.payload with
  | error failure =>
      rw [written_of_error inner worded] at done
      contradiction
  | ok message =>
      cases enabled : isEnabled announcement.threshold announcement.level with
      | true =>
          rw [written_of_isEnabled inner enabled worded clock] at done
          obtain ⟨_, _, lined⟩ := bind_eq_ok_iff.mp done
          obtain ⟨_, isLine⟩ := announcement.failsIf_lineOrNothing inner message clock
          exact .line enabled worded (isLine text lined)
      | false =>
          rw [written_of_disabled inner enabled worded] at done
          obtain rfl := Except.ok.inj done
          exact .nothing enabled

/--
With too little room, an announcement fails.  With enough room it fails exactly if its payload
holds an integer that is too long to be written, be it let through or not, or if it is let
through with a level whose number is too long.  Otherwise it leaves exactly one line, which
says its message, or nothing if it is not let through.
-/
theorem failsIf_written {announcement : Announcement} (outer inner : Room)
    (distinct : announcement.payload.Pairwise fun entry next => sameKey entry.1 next.1 = false)
    (clock : IsFinite (announcement.time * 1000)) :
    (announcement.LacksRoom outer inner →
      ∃ failure, announcement.written outer inner = .error failure) ∧
    (¬announcement.LacksRoom outer inner →
      FailsIf (HoldsLong (.dict announcement.payload) ∨
          (isEnabled announcement.threshold announcement.level = true ∧
            HoldsLong (.int announcement.level.number)))
        (.number .tooLongToWrite) (announcement.written outer inner)) ∧
    ∀ written, announcement.written outer inner = .ok written →
      announcement.IsRecord outer written := by
  refine ⟨exists_written_eq_error clock, fun roomy => ?_, fun _ => isRecord_of_written clock⟩
  have eventRoomy := fun lacks => roomy (.event lacks)
  rcases failsIf_eventText distinct eventRoomy with ⟨short, message, worded⟩ | ⟨long, failed⟩
  · exact (failsIf_written_of_eventText worded clock roomy).congr (or_iff_right short)
  · exact .inr ⟨.inl long, written_of_error inner failed⟩

theorem failsIf_written_refused :
    let inner : Dict :=
      [(.tuple [.int 1, .date ⟨2025, 6, 15, by decide⟩], .float .nan),
        (.date ⟨2025, 2, 28, by decide⟩, .dict [])]
    let payload : Dict :=
      [(.text eventKey, .decimal (.finite true 125 (-2))), (.null, .bool true),
        (.float (.infinity true), .list [.dict inner, .int (10 ^ 4300 - 1)])]
    let announcement : Announcement :=
      { time := .finite false 3436894801 (-1), logger := "apps", threshold := .unset
        level := .error, channel := "\n", event := "query.done", payload
        correlation := none }
    let outer : Room := { writing := 4, showing := 5, reading := 0 }
    let shallow : Room := { writing := 2, showing := 5, reading := 0 }
    let within : Room := { writing := 1, showing := 0, reading := 0 }
    payload.Pairwise (fun entry next => sameKey entry.1 next.1 = false) ∧
      IsFinite (announcement.time * 1000) ∧
      isEnabled announcement.threshold announcement.level = true ∧
      ¬HoldsLong (.dict payload) ∧
      (∃ written, announcement.written outer within = .ok written ∧
        announcement.IsRecord outer written) ∧
      ∃ failure, announcement.written shallow within = .error failure := by
  intro inner payload announcement outer shallow within
  have distinct : payload.Pairwise fun entry next => sameKey entry.1 next.1 = false := by
    decide +kernel
  have clock : IsFinite (announcement.time * 1000) := by decide +kernel
  have enabled : isEnabled announcement.threshold announcement.level = true := by decide
  have short : ¬HoldsLong (.dict payload) := by decide +kernel
  have level : ¬HoldsLong (.int announcement.level.number) := by decide +kernel
  have refused : firstRefusal? Style.log outer.writing (.dict (members "query.done" payload)) =
      some (.badKey "tuple") := by
    decide +kernel
  have tooDeep : firstRefusal? Style.log shallow.writing (.dict (members "query.done" payload)) =
      some (.tooDeep .displaying) := by
    decide +kernel
  have roomy : ¬announcement.LacksRoom outer within := by
    rintro (⟨⟨first⟩ | ⟨_, deep⟩⟩ | ⟨_, none⟩)
    · exact nomatch Option.some.inj (refused.symm.trans first)
    · exact absurd deep (by decide +kernel)
    · contradiction
  obtain ⟨_, fails, record⟩ := @failsIf_written announcement outer within distinct clock
  obtain ⟨written, done⟩ := (fails roomy).exists_ok (by
    rintro (long | ⟨_, long⟩)
    · exact short long
    · exact level long)
  obtain ⟨lacking, _, _⟩ := @failsIf_written announcement shallow within distinct clock
  exact ⟨distinct, clock, enabled, short, ⟨written, done, record written done⟩,
    lacking (.event (.writing tooDeep))⟩

/-- One digit more than may be written is enough for an announcement to fail. -/
theorem written_eq_error_longRide :
    let announcement : Announcement :=
      { time := 1718409600, logger := "bikeshare.query", threshold := .unset
        level := .warning, channel := "query", event := "query.done"
        payload := [(.text "rides", .int (10 ^ 4300))], correlation := none }
    let room : Room := { writing := 900, showing := 900, reading := 900 }
    isEnabled announcement.threshold announcement.level = true ∧
      announcement.written room room = .error (.number .tooLongToWrite) := by
  decide +kernel

end Announcement

end RideQuery.Log
