import RideQuery.Failure

/-!
# Settings

Named settings of any type.  A setting that was made explicitly comes before one
of the environment, which is always a text; an explicit null counts as none.  The
typed views fall back to a default where a setting does not have their type.  Views that
go down into a value fail if it is too deep for the room that there is.
-/

namespace RideQuery

open RideQuery.Text RideQuery.Number

/-- Explicit settings, and the environment behind them. -/
structure Settings where
  explicit : List (String × Value)
  environment : List (String × String)

namespace Settings

/-- The settings that the program looks at. -/
def keys : List String :=
  ["APP_DB_URL", "DATABASE_URL", "DB_SCHEMA", "SCHEMA_CACHE_TTL", "APP_SQL_ECHO",
    "BIKESHARE_DEBUG", "LOG_FILE"]

/-- Makes a setting. -/
def set (settings : Settings) (key : String) (value : Value) : Settings :=
  { settings with explicit := (key, value) :: settings.explicit }

/-- The explicit setting under a key, unless it is null. -/
def explicit? (settings : Settings) (key : String) : Option Value :=
  match settings.explicit.lookup key with
  | some .null => none
  | found => found

/-- The setting of the environment under a key. -/
def environment? (settings : Settings) (key : String) : Option Value :=
  (settings.environment.lookup key).map Value.text

/-- The setting under a key, if there is one. -/
def find? (settings : Settings) (key : String) : Option Value :=
  settings.explicit? key <|> settings.environment? key

/-- The setting under a key, or a default. -/
def get (settings : Settings) (key : String) (default : Value) : Value :=
  (settings.find? key).getD default

/-! ## Texts -/

/-- A value as a text: a collection as JSON, and anything else as it is displayed. -/
def textOf (room : Room) : Value → Except Failure Value
  | .null => .ok .null
  | .text s => .ok (.text s)
  | .dict entries => do
    .ok (.text (← (Json.write Json.Style.plain room.writing (.dict entries)).mapError .write))
  | .list items => do
    .ok (.text (← (Json.write Json.Style.plain room.writing (.list items)).mapError .write))
  | value => do
    .ok (.text (← (value.plainWithin room.showing).mapError .ofDisplay))

/-- The setting under a key as a text, or null. -/
def getText (room : Room) (settings : Settings) (key : String) (default : Value := .null) :
    Except Failure Value :=
  textOf room (settings.get key default)

/-- The setting under a key as a text that is not empty. -/
def nonemptyText? (room : Room) (settings : Settings) (key : String) :
    Except Failure (Option String) := do
  match ← settings.getText room key with
  | .text s => .ok (nonempty? (some s))
  | _ => .ok none

/-! ## Truth values -/

/-- The texts that stand for the truth, in small letters. -/
def truthTexts : List String :=
  ["1", "true", "t", "yes", "y", "on"]

/-- The truth value of a value, or a default in place of null. -/
def truthOf (default : Value) : Value → Value
  | .bool b => .bool b
  | .text s => .bool (truthTexts.contains (String.ofList (lower (trim s.toList))))
  | .null => default
  | value => .bool value.truthy

/-- The setting under a key as a truth value. -/
def getTruth (settings : Settings) (key : String) (default : Value := .null) : Value :=
  truthOf default (settings.get key default)

/-! ## Integers -/

/-- The integer that a displayed value stands for. -/
def readDisplayed (room : Room) (value : Value) : Except Value.DisplayError Int := do
  (readInteger (trim (← value.plainWithin room.showing).toList)).mapError .number

/-- The integer of a value, or a default if it has none. -/
def integerOf (room : Room) (default : Value) : Value → Except Failure Value
  | .null => .ok default
  | .bool b => .ok (.int (if b then 1 else 0))
  | .int n => .ok (.int n)
  | value =>
    match readDisplayed room value with
    | .ok n => .ok (.int n)
    | .error (.number _) => .ok default
    | .error (.tooDeep activity) => .error (.tooDeep activity)

/-- The setting under a key as an integer. -/
def getInteger (room : Room) (settings : Settings) (key : String) (default : Value := .null) :
    Except Failure Value :=
  integerOf room default (settings.get key default)

/-! ## JSON -/

/-- What a setting is as JSON: a value as it was given, or the document of a text. -/
inductive Loaded where
  | given (value : Value)
  | document (document : Json.Document)

/-- The document of a JSON text, or a default if it is malformed. -/
def jsonOf (room : Room) (default : Value) : Value → Except Failure Loaded
  | .null => .ok (.given default)
  | .text s =>
    match Json.readWithin room.reading s.toList with
    | .ok document => .ok (.document document)
    | .error .malformed => .ok (.given default)
    | .error error => .error (.read error)
  | value => .ok (.given value)

/-- The setting under a key as the document of a JSON text. -/
def getJson (room : Room) (settings : Settings) (key : String) (default : Value := .null) :
    Except Failure Loaded :=
  jsonOf room default (settings.get key .null)

/-! ## Particular settings -/

/-- The address of the database, or null. -/
def databaseAddress (room : Room) (settings : Settings) : Except Failure Value := do
  match ← settings.nonemptyText? room "APP_DB_URL" with
  | some address => .ok (.text address)
  | none => settings.getText room "DATABASE_URL"

/-- The schema whose columns are looked at. -/
def databaseSchema (room : Room) (settings : Settings) : Except Failure String := do
  .ok ((← settings.nonemptyText? room "DB_SCHEMA").getD "public")

/-- For how many seconds the columns of a schema are kept. -/
def defaultLifetime : Int := 300

/-- For how many seconds the columns of the schema are kept. -/
def cacheLifetime (room : Room) (settings : Settings) : Except Failure Int := do
  match ← settings.getInteger room "SCHEMA_CACHE_TTL" (.int defaultLifetime) with
  | .int n => .ok (if 0 ≤ n then n else defaultLifetime)
  | _ => .ok defaultLifetime

/-- Whether a setting is on. -/
def isOn (settings : Settings) (key : String) : Bool :=
  (settings.getTruth key (.bool false)).truthy

end Settings

end RideQuery
