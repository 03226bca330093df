import RideQuery.Console
import RideQuery.Startup
import RideQuery.Surroundings.Database.Engine
import RideQuery.Surroundings.Sql.Grammar
import Std.Time.Zoned

/-!
# The program

The command line of the library: arguments and settings are read, the answers are
printed.  No database driver is linked, so a question is answered with the failure
to reach one.
-/

namespace RideQuery

open RideQuery.Number RideQuery.Calendar

/-- What every call of a database fails with. -/
def noDriver : Fault :=
  { kind := .driver, message := some "no database driver" }

/-- What answers questions without a database. -/
def offlineAnswerer (today : Date) : Answer.Answerer :=
  Answer.run Sql.Grammar.accepts (fun _ => .error noDriver) (.error (.fault noDriver)) today

/-- The date of a calendar day, if it lies in the years that dates are defined for. -/
def dateOf (day : Std.Time.PlainDate) : Option Date :=
  Date.ofParts? day.year.toInt.toNat day.month.toNat day.day.toNat

/-- The room on the stack of the program. -/
def programRoom : Room :=
  { writing := 990, showing := 990, reading := 990 }

/-- The settings of the environment. -/
def readSettings : IO Settings := do
  let environment ← Settings.keys.filterMapM fun key => do
    return (← IO.getEnv key).map fun value => (key, value)
  return { explicit := [], environment }

/-- The time in seconds on a clock that never goes back. -/
def readClock : IO Binary64 := do
  return Binary64.ofDecimal false (← IO.monoMsNow) (-3)

end RideQuery

open RideQuery

/-- Does what the arguments ask for, and answers with the exit code. -/
def main (arguments : List String) : IO UInt32 := do
  let some today := dateOf (← Std.Time.PlainDate.now) | throw (IO.userError "no date")
  let started := Started.commandLine programRoom (Database.openEngine 0) (← readSettings)
  let answerer := started.result.map fun _ => offlineAnswerer today
  let reading ← readClock
  match Console.transcribe programRoom answerer [reading, reading] arguments with
  | .ok transcript =>
    IO.print transcript.output
    return transcript.code.toUInt32
  | .error failure =>
    IO.eprintln (failure.kind ++ ": " ++ failure.message)
    return 1
