import RideQuery.Log.Event
import RideQuery.Settings

/-!
# Set-up of logging

Which handlers the root logger writes through, and which levels the known loggers
are set to.  Setting up replaces the handlers by ones that write JSON, unless
handlers are to be preserved and one of them writes JSON already.
-/

namespace RideQuery.Log

/-- How a handler writes records. -/
inductive Formatter where
  | json
  | plain
  | none
  deriving DecidableEq

/-- Where a handler writes records to. -/
inductive Target where
  | stream
  /-- A file that is put aside when it has grown to a size, a number of times. -/
  | rotatingFile (maxBytes backups : Nat)
  deriving DecidableEq

/-- A handler of the root logger. -/
structure Handler where
  target : Target
  formatter : Formatter
  deriving DecidableEq

/-- The set-up of logging. -/
structure Setup where
  rootLevel : Level
  handlers : List Handler
  /-- The levels of the loggers that are known by name. -/
  levels : List (String × Level)

/-- The logger of the database layer. -/
def databaseLogger : String := "sqlalchemy.engine"

/-- The logger of the web server. -/
def webLogger : String := "werkzeug"

/-- The logger of the program. -/
def programLogger : String := "apps.bikeshare"

/-- How large a log file grows. -/
def maxLogBytes : Nat := 10000000

/-- How many log files are put aside. -/
def logBackups : Nat := 3

namespace Setup

/-- Logging with some handlers, before it is set up. -/
def initial (formatters : List Formatter) : Setup :=
  { rootLevel := .warning
    handlers := formatters.map fun formatter => { target := .stream, formatter }
    levels := [(databaseLogger, .unset), (webLogger, .unset), (programLogger, .info)] }

/-- What logging is set up with. -/
structure Request where
  debug : Bool := false
  preserve : Bool := false
  toFile : Bool := false

/-- The level of the program's own records. -/
def Request.level (request : Request) : Level :=
  if request.debug then .debug else .info

/-- The handlers that are set up. -/
def Request.handlers (request : Request) : List Handler :=
  { target := .stream, formatter := .json } ::
    if request.toFile then
      [{ target := .rotatingFile maxLogBytes logBackups, formatter := .json }]
    else
      []

/-- Whether a handler writes JSON already. -/
def writesJson (setup : Setup) : Bool :=
  setup.handlers.any fun handler => handler.formatter == .json

/-- The set-up after a request. -/
def apply (setup : Setup) (request : Request) : Setup :=
  if request.preserve && setup.writesJson then
    { setup with rootLevel := request.level }
  else
    { rootLevel := request.level
      handlers := request.handlers
      levels :=
        [(databaseLogger, .warning), (webLogger, .info), (programLogger, request.level)] }

/-- The request that settings make; handlers are preserved. -/
def Request.ofSettings (room : Room) (settings : Settings) : Except Failure Request := do
  let file ← settings.nonemptyText? room "LOG_FILE"
  pure { debug := settings.isOn "BIKESHARE_DEBUG", preserve := true, toFile := file.isSome }

end Setup

end RideQuery.Log
