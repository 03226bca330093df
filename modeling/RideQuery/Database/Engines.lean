import RideQuery.Failure

/-!
# Engines

A database is opened once for each key and kept.  A key is a text: the address, and
behind it after how many seconds connections are renewed or, if they are not tested
before use, a mark of that.  Whether statements are echoed is no part of it, so the
first caller decides it.  What comes of opening is up to the library of the database.
-/

namespace RideQuery.Database

open RideQuery.Number

/-- What an engine is asked for with. -/
structure EngineOptions where
  address : String
  prePing : Bool := true
  recycle : Int := 3600
  echo : Bool := false
  deriving DecidableEq

/-- What the parts of a key are set apart by. -/
def keySeparator : String := "::"

/-- The end of a key of connections that are not tested; these are not told apart further. -/
def untestedMark : String := "np"

/-- The last part of a key; a number of seconds may have too many digits to be written. -/
def EngineOptions.keyEnd (options : EngineOptions) : Except NumberError String :=
  if options.prePing then writeInteger options.recycle else .ok untestedMark

/-- What an engine is kept under. -/
def EngineOptions.key (options : EngineOptions) : Except NumberError String := do
  let last ← options.keyEnd
  pure ("url" ++ keySeparator ++ options.address ++ keySeparator ++ last)

/-! ## Requests -/

/-- What is kept under keys, in the order in which it was opened. -/
abbrev Kept (Engine : Type) := List (String × Engine)

namespace Kept

/-- What an engine without an address is refused with. -/
def missingAddress : Failure :=
  .badValue "Database URL must be provided"

/--
The engine for some options, and what is kept then.  An engine is opened only where none is
kept under the key, and `opening` is what comes of that.
-/
def request {Engine : Type} (kept : Kept Engine) (options : EngineOptions)
    (opening : Except Failure Engine) : Except Failure Engine × Kept Engine :=
  if options.address.isEmpty then
    (.error missingAddress, kept)
  else
    match options.key with
    | .error error => (.error (.number error), kept)
    | .ok key =>
      match kept.lookup key with
      | some engine => (.ok engine, kept)
      | none =>
        match opening with
        | .error failure => (.error failure, kept)
        | .ok engine => (.ok engine, kept ++ [(key, engine)])

end Kept

/-! ## Calls -/

/-- A request for an engine, with what would come of opening one for it. -/
structure EngineCall (Engine : Type) where
  options : EngineOptions
  opening : Except Failure Engine

/-- What is kept after some calls, and what each of them was answered with, in order. -/
structure History (Engine : Type) where
  kept : Kept Engine
  replies : List (EngineOptions × Except Failure Engine)

namespace History

variable {Engine : Type}

/-- A history with one more call. -/
def step (history : History Engine) (call : EngineCall Engine) : History Engine :=
  { kept := (history.kept.request call.options call.opening).2
    replies := history.replies ++
      [(call.options, (history.kept.request call.options call.opening).1)] }

/-- The history of some calls, before which nothing is kept. -/
def ofCalls (calls : List (EngineCall Engine)) : History Engine :=
  calls.foldl step { kept := [], replies := [] }

/-- The engines that were handed out, each as often as it was. -/
def handedOut (history : History Engine) : List Engine :=
  history.replies.filterMap fun reply => reply.2.toOption

end History

end RideQuery.Database
