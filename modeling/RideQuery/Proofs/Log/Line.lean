import RideQuery.Log.Line
import RideQuery.Proofs.Answer.Outcome
import RideQuery.Proofs.Log.Event
import RideQuery.Proofs.Number.Rounding

/-!
# Log lines read back

What is announced with a plain payload and let through is written as one line, which is read
back as the time, the level, the logger, the message, the correlation id and a channel if there
is one.  The message is read back in turn as the name of the event and its payload.
-/

namespace RideQuery.Log

open RideQuery.Number RideQuery.Json RideQuery.Answer

/-! ## The clock -/

theorem isFinite_of_mul {x y : Binary64} (finite : IsFinite (x * y)) : IsFinite x := by
  obtain ⟨⟨negative, significand, exponent, rfl⟩, _⟩ :=
    Binary64.exists_finite_of_mul (exists_truncate_iff.mpr finite)
  exact .finite negative significand exponent

/-- A finite product is cut to an integer that can be written. -/
theorem exists_truncate_mul {x y : Binary64} (finite : IsFinite (x * y)) :
    ∃ n, (x * y).truncate = .ok n ∧ digitCount n.natAbs ≤ maxDigits :=
  (Binary64.isRepresentable_mul (exists_truncate_iff.mpr finite)).exists_truncate

/-! ## Members of a line -/

namespace Announcement

/-- What the line of an announcement says, with its time in milliseconds and its message. -/
def said (announcement : Announcement) (milliseconds : Int) (message : String) : Dict :=
  [(.text "ts", .int milliseconds), (.text "level", .text announcement.level.name),
    (.text "logger", .text announcement.logger), (.text "msg", .text message),
    (.text "corr_id", .ofOption announcement.correlation)] ++
    if announcement.channel = "" then [] else [(.text "channel", .text announcement.channel)]

/-- What a line says is plain, with one pair of brackets. -/
theorem isPlain_said (announcement : Announcement) {milliseconds : Int} (message : String)
    (short : digitCount milliseconds.natAbs ≤ maxDigits) :
    IsPlain 1 (.dict (announcement.said milliseconds message)) := by
  have correlation := isPlain_ofOption 0 announcement.correlation
  by_cases silent : announcement.channel = ""
  · rw [said, if_pos silent]
    refine IsPlain.record [("ts", _), ("level", _), ("logger", _), ("msg", _),
      ("corr_id", _)] (by simp) ?_
    simpa using ⟨.int short, .text _, .text _, .text _, correlation⟩
  · rw [said, if_neg silent]
    refine IsPlain.record [("ts", _), ("level", _), ("logger", _), ("msg", _),
      ("corr_id", _), ("channel", _)] (by simp) ?_
    simpa using ⟨.int short, .text _, .text _, .text _, correlation, .text _⟩

/-- The entry of an announcement whose message is known. -/
def saying (announcement : Announcement) (message : String) : Entry :=
  { time := announcement.time
    level := announcement.level
    logger := announcement.logger
    message := .text message
    arguments := []
    correlation := announcement.correlation
    channel := .text announcement.channel
    fault := none }

theorem entry_eq_saying {announcement : Announcement} {room : Room} {message : String}
    (worded : eventText room announcement.event announcement.payload = .ok message) :
    announcement.entry room = .ok (announcement.saying message) := by
  rw [entry, worded]
  rfl

/-- A message without arguments is said as it is, whatever room there is. -/
theorem members_saying {announcement : Announcement} {milliseconds : Int} (room : Room)
    (message : String) (timed : (announcement.time * 1000).truncate = .ok milliseconds) :
    (announcement.saying message).members room =
      .ok (announcement.said milliseconds message) := by
  have time : (announcement.saying message).milliseconds = .ok milliseconds := by
    change ((announcement.time * 1000).truncate).mapError Failure.number = _
    rw [timed]
    rfl
  have channel : (Value.text announcement.channel).truthy = !announcement.channel.isEmpty := rfl
  rw [Entry.members, time]
  change Except.ok (_ ++ (if (Value.text announcement.channel).truthy then _ else []) ++ []) = _
  rw [List.append_nil, channel]
  by_cases silent : announcement.channel = ""
  · rw [said, if_pos silent, silent]
    rfl
  · have spoken : announcement.channel.isEmpty = false := by simpa using silent
    rw [said, if_neg silent, spoken]
    rfl

/-! ## Lines -/

/-- A single line that is read back as what an announcement with some message says. -/
def IsLineOf (announcement : Announcement) (message line : String) : Prop :=
  ∃ body milliseconds, line = body ++ "\n" ∧ '\n' ∉ body.toList ∧
    (announcement.time * 1000).truncate = .ok milliseconds ∧
    IsReadAs 1 body (.dict (announcement.said milliseconds message))

/-- The line of a message that is known takes room for a single pair of brackets. -/
theorem failsIf_lineOrNothing (announcement : Announcement) (room : Room) (message : String)
    (clock : IsFinite (announcement.time * 1000)) :
    FailsIf (room.writing = 0) (.tooDeep .encoding)
        (lineOrNothing room (announcement.saying message)) ∧
      ∀ line, lineOrNothing room (announcement.saying message) = .ok line →
        announcement.IsLineOf message line := by
  obtain ⟨milliseconds, timed, short⟩ := exists_truncate_mul clock
  have plain := announcement.isPlain_said message short
  have line : (announcement.saying message).line room =
      (Json.write Style.log room.writing
        (.dict (announcement.said milliseconds message))).mapError Failure.write := by
    rw [Entry.line, members_saying room message timed, ok_bind]
  rw [lineOrNothing, line]
  cases noRoom : room.writing with
  | zero => exact ⟨.inr ⟨rfl, rfl⟩, fun _ done => nomatch done⟩
  | succ inside =>
      obtain ⟨body, written, visible, read⟩ :=
        exists_write_of_isPlain plain (Nat.succ_le_succ (Nat.zero_le inside))
      rw [written]
      refine ⟨.ok (Nat.succ_ne_zero inside) _, ?_⟩
      rintro _ ⟨⟩
      refine ⟨body, milliseconds, rfl, fun control => ?_, timed, read⟩
      exact absurd (visible '\n' control) (by decide)

/-- What cannot be put into words fails, whether it is let through or not. -/
theorem written_of_error {announcement : Announcement} {outer : Room} (inner : Room)
    {error : Value.DisplayError}
    (failed : eventText outer announcement.event announcement.payload = .error error) :
    announcement.written outer inner = .error error := by
  rw [written, entry, failed]
  rfl

/-- What is not let through leaves nothing, once it has been put into words. -/
theorem written_of_disabled {announcement : Announcement} {outer : Room} (inner : Room)
    {message : String}
    (disabled : isEnabled announcement.threshold announcement.level = false)
    (worded : eventText outer announcement.event announcement.payload = .ok message) :
    announcement.written outer inner = .ok "" := by
  rw [written, entry_eq_saying worded, ok_bind, disabled]
  rfl

/-- What is let through is named by its level and written as the line of its message. -/
theorem written_of_isEnabled {announcement : Announcement} {outer : Room} (inner : Room)
    {message : String} (enabled : isEnabled announcement.threshold announcement.level = true)
    (worded : eventText outer announcement.event announcement.payload = .ok message)
    (clock : IsFinite (announcement.time * 1000)) :
    announcement.written outer inner =
      ((writeInteger announcement.level.number).mapError Value.DisplayError.number >>= fun _ =>
        lineOrNothing inner (announcement.saying message)) := by
  obtain ⟨seconds, cut⟩ := exists_truncate_iff.mpr (isFinite_of_mul clock)
  rw [written, entry_eq_saying worded, ok_bind, enabled, if_pos rfl, cut]
  rfl

end Announcement

end RideQuery.Log
