import RideQuery.Json.Writer

/-!
# Events

An event is logged as a line of JSON: its name and its payload.  A payload that
JSON has no form for is shown for inspection instead, but one that is too deep for the
room that there is fails.
-/

namespace RideQuery.Log

open RideQuery.Number

/-- The severity of a record; any number is one, and a few have names. -/
structure Level where
  number : Int
  deriving DecidableEq

namespace Level

/-- No severity at all. -/
def unset : Level := ⟨0⟩

/-- Details for the search of errors. -/
def debug : Level := ⟨10⟩

/-- The ordinary course of things. -/
def info : Level := ⟨20⟩

/-- Something unexpected. -/
def warning : Level := ⟨30⟩

/-- A failure. -/
def error : Level := ⟨40⟩

/-- A failure that the program does not survive. -/
def critical : Level := ⟨50⟩

/-- The levels that have names. -/
def named : List (Level × String) :=
  [(unset, "NOTSET"), (debug, "DEBUG"), (info, "INFO"), (warning, "WARNING"), (error, "ERROR"),
    (critical, "CRITICAL")]

/-- The name of a level, made from its number if it has none. -/
def name (level : Level) : String :=
  (named.lookup level).getD ("Level " ++ integerText level.number)

end Level

/-- A record of the log. -/
structure Record where
  level : Level
  logger : String
  channel : Option String
  message : String
  deriving DecidableEq

/-- The key of an event's name. -/
def eventKey : String := "event"

/-- The members of an event: its name, and its payload on top. -/
def members (event : String) (payload : Dict) : Dict :=
  payload.foldl (fun dict entry => Value.insert dict entry.1 entry.2)
    [(.text eventKey, .text event)]

/-- The text of an event, where it is logged from some room. -/
def eventText (room : Room) (event : String) (payload : Dict) :
    Except Value.DisplayError String :=
  match Json.write Json.Style.log room.writing (.dict (members event payload)) with
  | .ok written => .ok written
  | .error (.tooDeep activity) => .error (.tooDeep activity)
  | .error _ => do
    .ok (event ++ ": " ++ (← (Value.dict payload).inspectWithin room.showing))

end RideQuery.Log
