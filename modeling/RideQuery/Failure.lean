import RideQuery.Fault
import RideQuery.Json.Reader
import RideQuery.Json.Writer
import RideQuery.Log.Template
import RideQuery.Query.Build
import RideQuery.Question.Analysis

/-!
# Failures

Everything that can keep a question from being answered, each with the kind it is
reported under and its wording.  Failures about the question are told from those of
the program, because they are logged differently.
-/

namespace RideQuery

open RideQuery.Number RideQuery.Calendar RideQuery.Question RideQuery.Query RideQuery.Json
open RideQuery.Sql

/-- The kind that a failure to handle a number is reported under. -/
def Number.NumberError.kind : NumberError → String
  | .notNumeric _ => "TypeError"
  | .beyondDouble | .infinityToInteger | .infiniteDecimal => "OverflowError"
  | _ => "ValueError"

/-- The kind that a failure to work out a date is reported under. -/
def Question.DateError.kind : DateError → String
  | .calendar .outOfRange => "OverflowError"
  | _ => "ValueError"

/-- The kind that a failure to build a query is reported under. -/
def Query.BuildFailure.kind : BuildFailure → String
  | .refused _ => FaultKind.build.name
  | .number error => error.kind

/-- The kind that a failure to write JSON is reported under. -/
def Json.WriteError.kind : WriteError → String
  | .number error => error.kind
  | .tooDeep _ => Activity.kind
  | _ => "TypeError"

/-- The kind that a failure to read JSON is reported under. -/
def Json.ReadError.kind : ReadError → String
  | .tooDeep _ => Activity.kind
  | _ => "ValueError"

/-- The kind that a failure to fill in a template is reported under. -/
def Log.TemplateError.kind : Log.TemplateError → String
  | .number error => error.kind
  | .incomplete | .incompleteKey | .unsupported .. | .countTooBig _ => "ValueError"
  | .missingKey _ => FaultKind.key.name
  | .characterRange | .argumentTooLarge _ => "OverflowError"
  | .tooDeep _ => Activity.kind
  | _ => "TypeError"

/-- What kept the program from giving an answer. -/
inductive Failure where
  /-- The question is not one that can be answered. -/
  | rejected
  /-- The dates of the question could not be worked out. -/
  | date (error : DateError)
  /-- The query could not be built. -/
  | build (failure : BuildFailure)
  /-- The query could not be executed. -/
  | execution (message : String)
  /-- A number could not be handled. -/
  | number (error : NumberError)
  /-- A value lies too deep to be displayed. -/
  | tooDeep (activity : Activity)
  /-- A value could not be written as JSON. -/
  | write (error : WriteError)
  /-- A JSON text could not be read. -/
  | read (error : ReadError)
  /-- A text has no member with this name. -/
  | missingKey (key : String)
  /-- The configuration lacks something. -/
  | configuration (message : String)
  /-- A call was made with something missing. -/
  | badValue (message : String)
  /-- A message template does not fit its arguments. -/
  | template (error : Log.TemplateError)
  /-- A failure from outside. -/
  | fault (raised : Fault)
  deriving DecidableEq

namespace Failure

/-- The kind that a failure is reported under. -/
def kind : Failure → String
  | .rejected => FaultKind.validation.name
  | .date error => error.kind
  | .build failure => failure.kind
  | .execution _ => FaultKind.execution.name
  | .number error => error.kind
  | .tooDeep _ => Activity.kind
  | .write error => error.kind
  | .read error => error.kind
  | .missingKey _ => FaultKind.key.name
  | .configuration _ => FaultKind.runtime.name
  | .badValue _ => FaultKind.value.name
  | .template error => error.kind
  | .fault raised => raised.kind.name

/-- The wording of a failure. -/
def message : Failure → String
  | .rejected => rephraseMessage
  | .date error => error.message
  | .build failure => failure.message
  | .execution message => message
  | .number error => error.message
  | .tooDeep activity => activity.message
  | .write error => error.message
  | .read error => error.message
  | .missingKey key => Text.quote key
  | .configuration message => message
  | .badValue message => message
  | .template error => error.message
  | .fault raised => raised.text

/-- Whether a failure is about the question, and not about the program. -/
def isAboutQuery : Failure → Bool
  | .rejected => true
  | .build (.refused _) => true
  | .execution _ => true
  | .fault raised => raised.kind.isAboutQuery
  | _ => false

/-- What a failure is reported as: its wording or, failing that, its kind. -/
def report (failure : Failure) : String :=
  if failure.message.isEmpty then failure.kind else failure.message

end Failure

/-- A failure to display a value. -/
def Failure.ofDisplay : Value.DisplayError → Failure
  | .number error => .number error
  | .tooDeep activity => .tooDeep activity

/-- A failure to analyse a question. -/
def Failure.ofAnalysis : AnalysisError → Failure
  | .rejected => .rejected
  | .date error => .date error

end RideQuery
