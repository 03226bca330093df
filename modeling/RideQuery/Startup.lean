import RideQuery.Database.Engines
import RideQuery.Log.Setup

/-!
# Starting up

What the settings make of the program: the engine it asks, the schema it looks at
and how long columns are kept.  The settings are read in a fixed order, so that the
first of several faults is the one that is reported, and the start is logged only
after all of them have been read.  Engines are opened by the library of the database.
-/

namespace RideQuery

open RideQuery.Database RideQuery.Log

/-- The program as its settings have it. -/
structure Startup (Engine : Type) where
  engine : Engine
  /-- The address that the engine was opened for. -/
  address : String
  schema : String
  /-- For how many seconds columns are kept. -/
  lifetime : Int

/-- What starting came to, with what was logged on the way. -/
structure Started (Engine : Type) where
  result : Except Failure (Startup Engine)
  records : List Record

variable {Engine : Type}

namespace Startup

/-- The logger of this module. -/
def bootLogger : String := "apps.bikeshare.boot"

/-- The logger of the web service. -/
def serviceLogger : String := "main"

/-- The channel of the events of starting. -/
def channel : String := "boot"

/-- What a start without an address is refused with. -/
def missingAddress : Failure :=
  .configuration "APP_DB_URL (or DATABASE_URL) must be configured"

/-- The address that the settings name. -/
def addressOf (room : Room) (settings : Settings) : Except Failure String := do
  match ← settings.databaseAddress room with
  | .text address => if address.isEmpty then .error missingAddress else .ok address
  | _ => .error missingAddress

/-- The program that some settings describe; `opening` is what comes of opening its engine. -/
def ofSettings (room : Room) (opening : EngineOptions → Except Failure Engine)
    (settings : Settings) : Except Failure (Startup Engine) := do
  let address ← addressOf room settings
  let options : EngineOptions := { address, echo := settings.isOn "APP_SQL_ECHO" }
  let engine ← (Kept.request [] options (opening options)).1
  let schema ← settings.databaseSchema room
  pure { engine, address, schema, lifetime := ← settings.cacheLifetime room }

/-- The text in front of the first mark in a text, or all of it if there is none. -/
def beforeMark (mark : List Char) : List Char → List Char
  | [] => []
  | c :: rest => if mark.isPrefixOf (c :: rest) then [] else c :: beforeMark mark rest

/-- The dialect of an address together with its driver. -/
def dialectAndDriver (address : String) : String :=
  String.ofList (beforeMark "://".toList address.toList)

/-- An event of starting. -/
def onChannel (room : Room) (logger event : String) (payload : Dict) :
    Except Failure Record := do
  let message ← (eventText room event payload).mapError Failure.ofDisplay
  pure { level := .info, logger, channel := some channel, message }

/-- The record of a start. -/
def record (room : Room) (startup : Startup Engine) : Except Failure Record :=
  onChannel room bootLogger "boot.db_url"
    [(.text "dialect", .text (dialectAndDriver startup.address)),
      (.text "schema", .text startup.schema)]

/-- The record of the web service being set up. -/
def serviceRecord (room : Room) : Except Failure Record :=
  onChannel room serviceLogger "app_boot" [(.text "message", .text "registering blueprints")]

end Startup

namespace Started

/-- Starting failed before anything was logged. -/
def failed (failure : Failure) : Started Engine :=
  { result := .error failure, records := [] }

/-- Starts the program, and logs that it did. -/
def program (room : Room) (opening : EngineOptions → Except Failure Engine)
    (settings : Settings) : Started Engine :=
  match Startup.ofSettings room opening settings with
  | .error failure => failed failure
  | .ok startup =>
    match startup.record room with
    | .error failure => failed failure
    | .ok record => { result := .ok startup, records := [record] }

/-- What comes after something was logged. -/
def after (record : Record) (started : Started Engine) : Started Engine :=
  { started with records := record :: started.records }

/-- Starts the web service: logging is set up first, then the program is started. -/
def service (room : Room) (opening : EngineOptions → Except Failure Engine)
    (settings : Settings) : Started Engine :=
  match Setup.Request.ofSettings room settings, Startup.serviceRecord room with
  | .error failure, _ => failed failure
  | .ok _, .error failure => failed failure
  | .ok _, .ok record => (program room opening settings).after record

/-- Starts the command line: logging is set up first, then the program is started. -/
def commandLine (room : Room) (opening : EngineOptions → Except Failure Engine)
    (settings : Settings) : Started Engine :=
  match Setup.Request.ofSettings room settings with
  | .error failure => failed failure
  | .ok _ => program room opening settings

end Started

end RideQuery
