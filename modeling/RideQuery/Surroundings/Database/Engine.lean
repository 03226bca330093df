import RideQuery.Database.Engines
import RideQuery.Surroundings.Database.Address

/-!
# Opened engines

What comes of opening an engine where databases are files.  This stands in for the library of
the database, so that the program can be run; nothing that is proved of engines rests on it.
-/

namespace RideQuery.Database

/-- The dialects that an engine can be opened for. -/
def knownDialects : List String := ["sqlite", "sqlite+pysqlite"]

/-- The dialect of an engine, whatever its driver. -/
def dialectName (dialect : String) : String :=
  String.ofList (dialect.toList.takeWhile (· != '+'))

/-- An engine: its place in the order of opening, and what it was opened with. -/
structure OpenEngine where
  id : Nat
  dialect : String
  options : EngineOptions
  deriving DecidableEq

/-- A failure of the library of the database, by its own name. -/
def libraryFailure (name : String) (named : name ≠ "") : Failure :=
  .fault { kind := .special .database "sqlalchemy.exc." name named, message := none }

/-- A database address that could not be taken apart. -/
def badAddress : Failure :=
  libraryFailure "ArgumentError" (by decide)

/-- A database address that names an unknown dialect. -/
def unknownDialect : Failure :=
  libraryFailure "NoSuchModuleError" (by decide)

/-- The dialect of an address that can be opened: one of a file, without a server. -/
def openDialect (text : String) : Except Failure String :=
  match Address.read? text with
  | none => .error badAddress
  | some address => do
    let port ← address.portNumber.mapError Failure.number
    if !knownDialects.contains address.dialect then .error unknownDialect
    else if address.hasAccount || !address.host.isEmpty || port ≠ 0 then .error badAddress
    else .ok (dialectName address.dialect)

/-- What comes of opening an engine that is the next one in the order of opening. -/
def openEngine (id : Nat) (options : EngineOptions) : Except Failure OpenEngine :=
  (openDialect options.address).map fun dialect => { id, dialect, options }

end RideQuery.Database
