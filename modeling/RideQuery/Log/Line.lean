import RideQuery.Failure
import RideQuery.Log.Event
import RideQuery.Log.Template

/-!
# Log lines

A record of the log as one line of JSON: the time, the level, the logger, the
message and the correlation id, and a channel and a failure where there are any.  An
event is put into words where it is announced, and its line is written further down the
stack, where less room is left.
-/

namespace RideQuery.Log

open RideQuery.Number

/-- Everything that a line is made from. -/
structure Entry where
  /-- The time in seconds. -/
  time : Binary64
  level : Level
  logger : String
  /-- What is said; a text is the template that the arguments are filled into. -/
  message : Value
  arguments : List Value
  correlation : Option String
  channel : Value
  /-- The failure that is reported along with the message. -/
  fault : Option Fault

/-- A fault in one line: its kind, and its text if it has one. -/
def faultLine (fault : Fault) : String :=
  let name := fault.kind.home ++ fault.kind.name
  if fault.text.isEmpty then name else name ++ ": " ++ fault.text

/-- The message of an entry with its arguments filled in. -/
def Entry.text (room : Room) (entry : Entry) : Except Failure String := do
  let template ← (entry.message.plainWithin room.showing).mapError Failure.ofDisplay
  (fill room.showing template entry.arguments).mapError Failure.template

/-- The time of an entry in whole milliseconds. -/
def Entry.milliseconds (entry : Entry) : Except Failure Int :=
  (entry.time * 1000).truncate.mapError Failure.number

/-- The members of an entry's line. -/
def Entry.members (room : Room) (entry : Entry) : Except Failure Dict := do
  let milliseconds ← entry.milliseconds
  let text ← entry.text room
  pure <|
    [(.text "ts", .int milliseconds), (.text "level", .text entry.level.name),
      (.text "logger", .text entry.logger), (.text "msg", .text text),
      (.text "corr_id", .ofOption entry.correlation)] ++
      (if entry.channel.truthy then [(.text "channel", entry.channel)] else []) ++
      (match entry.fault with
        | some fault => [(.text "exc", .text (faultLine fault))]
        | none => [])

/-- The line of an entry, where it is written in some room. -/
def Entry.line (room : Room) (entry : Entry) : Except Failure String := do
  (Json.write Json.Style.log room.writing (.dict (← entry.members room))).mapError Failure.write

/-! ## Logging events -/

/-- What a logger is asked to log, and what it is set to. -/
structure Announcement where
  time : Binary64
  logger : String
  /-- The least level that the logger lets through. -/
  threshold : Level
  level : Level
  channel : String
  event : String
  payload : Dict
  correlation : Option String

/-- The least level that a logger lets through; one that is not set takes that of the root. -/
def effective (threshold : Level) : Level :=
  if threshold = .unset then .warning else threshold

/-- Whether a logger lets a level through; what has no severity at all never passes. -/
def isEnabled (threshold level : Level) : Bool :=
  0 < level.number && (effective threshold).number ≤ level.number

/-- The entry of an event that is announced from some room. -/
def Announcement.entry (room : Room) (announcement : Announcement) :
    Except Value.DisplayError Entry := do
  pure
    { time := announcement.time
      level := announcement.level
      logger := announcement.logger
      message := .text (← eventText room announcement.event announcement.payload)
      arguments := []
      correlation := announcement.correlation
      channel := .text announcement.channel
      fault := none }

/-- What a failure had no room for, if that is what it is. -/
def deepActivity? : Failure → Option Activity
  | .tooDeep activity | .write (.tooDeep activity) | .template (.tooDeep activity) =>
    some activity
  | _ => none

/-- A line with its end; one that cannot be made is dropped, unless there was no room for it. -/
def lineOrNothing (room : Room) (entry : Entry) : Except Value.DisplayError String :=
  match entry.line room with
  | .ok line => .ok (line ++ "\n")
  | .error failure =>
    match deepActivity? failure with
    | some activity => .error (.tooDeep activity)
    | none => .ok ""

/--
What is written for an event: a line, or nothing if the logger does not let it through.
There is some room where the event is announced, and some other where its line is written.
-/
def Announcement.written (outer inner : Room) (announcement : Announcement) :
    Except Value.DisplayError String := do
  let entry ← announcement.entry outer
  if isEnabled announcement.threshold announcement.level then
    -- A level without a name is called by its number, which has to be written.
    let _ ← (writeInteger announcement.level.number).mapError Value.DisplayError.number
    let _ ← announcement.time.truncate.mapError Value.DisplayError.number
    lineOrNothing inner entry
  else
    pure ""

/-! ## Correlation ids -/

/-- An id that is bound to everything logged for one request. -/
inductive Correlation where
  /-- The id that was asked for. -/
  | given (id : String)
  /-- An id made up on the spot. -/
  | fresh
  deriving DecidableEq

/-- The id that is bound when one is asked for; an empty one counts as none. -/
def Correlation.bind (asked : Option String) : Correlation :=
  match nonempty? asked with
  | some id => .given id
  | none => .fresh

end RideQuery.Log
