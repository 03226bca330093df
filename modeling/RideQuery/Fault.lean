import RideQuery.Text.Quoted

/-!
# Faults

Failures that come from outside: from a database, from a loader of the schema or
from an executor that was put in place of a database.  A fault carries its kind and
the message it was raised with, if any.  A kind may be a special case of another one:
it is reported under its own name and handled like the kind it is a case of.  Every
fault has a text; one that fails to give its own text is not among them.
-/

namespace RideQuery

open RideQuery.Text

/-- The kinds of fault. -/
inductive FaultKind where
  | query
  | validation
  | build
  | execution
  | runtime
  | value
  | key
  | timeout
  /-- A failure of the database layer itself. -/
  | database
  /-- A failure that the database layer passes on from its driver. -/
  | driver
  /-- Any other kind, by the name that it is reported under. -/
  | other (name : String) (named : name ≠ "")
  /-- A special case of a kind, with a name of its own and the module that it is defined in. -/
  | special (general : FaultKind) (home name : String) (named : name ≠ "")
  deriving DecidableEq

/-- A failure from outside. -/
structure Fault where
  kind : FaultKind
  message : Option String
  deriving DecidableEq

/-- The answer to a question that is not understood. -/
def rephraseMessage : String :=
  "I don't understand that question. Please ask about bike share data like " ++
    "ride times, distances, weather patterns, or station usage."

namespace FaultKind

/-- The name that a kind is reported under. -/
def name : FaultKind → String
  | .query => "QueryError"
  | .validation => "ValidationError"
  | .build => "BuildError"
  | .execution => "ExecutionError"
  | .runtime => "RuntimeError"
  | .value => "ValueError"
  | .key => "KeyError"
  | .timeout => "TimeoutError"
  | .database => "SQLAlchemyError"
  | .driver => "DBAPIError"
  | .other name _ => name
  | .special _ _ name _ => name

/-- The kind that a kind is a special case of in the end. -/
def root : FaultKind → FaultKind
  | .special general _ _ _ => general.root
  | kind => kind

/-- Whether faults of a kind are about the question, and not about the program. -/
def isAboutQuery (kind : FaultKind) : Bool :=
  match kind.root with
  | .query | .validation | .build | .execution => true
  | _ => false

/-- Whether faults of a kind come from the database. -/
def isFromDatabase (kind : FaultKind) : Bool :=
  match kind.root with
  | .database | .driver => true
  | _ => false

/-- The text of a fault of a kind that was raised without a message. -/
def defaultText (kind : FaultKind) : String :=
  match kind.root with
  | .validation => rephraseMessage
  | .database => "()"
  | _ => ""

/-- The module that a kind is defined in, if that is not the core. -/
def home (kind : FaultKind) : String :=
  match kind with
  | .special _ home _ _ => home
  | .query | .validation | .build | .execution => "apps.bikeshare.errors."
  | .database | .driver => "sqlalchemy.exc."
  | _ => ""

end FaultKind

/-- The text of a fault; a missing key is shown between quotation marks. -/
def Fault.text (fault : Fault) : String :=
  match fault.message with
  | none => fault.kind.defaultText
  | some message => if fault.kind.root = .key then quote message else message

end RideQuery
