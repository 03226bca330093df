import RideQuery.Answer.Shape
import RideQuery.Dialogue
import RideQuery.Failure
import RideQuery.Log.Event

/-!
# Answering questions

From a question to an answer: the columns are read, the question is analysed, the
query is built and executed, and its rows are shaped.  Whatever fails on the way is
turned into an outcome with an error.  A run also tells which statement was
executed and which events were logged.
-/

namespace RideQuery.Answer

open RideQuery.Number RideQuery.Schema RideQuery.Calendar RideQuery.Question RideQuery.Query
open RideQuery.Log

/-- Questions to start with. -/
def sampleQuestions : List String :=
  ["What was the average ride time for journeys that started at Congress Avenue in June 2025?",
    "How many kilometres were ridden by women on rainy days in June 2025?",
    "Which docking point saw the most departures during the first week of June 2025?",
    "How many trips were taken in June 2025?",
    "What was the total distance ridden last month?"]

/-- A statement with its parameters, as an executor is given it. -/
structure Request where
  sql : String
  parameters : List Value

/-- What executes statements: rows, or a fault. -/
abbrev Executor := Request → Except Fault (List Dict)

/-- The outcome of a question. -/
structure Outcome where
  sql : String
  result : Value
  error : Option String
  explanation : String
  executionTime : Int

/-- The entries of an outcome's record. -/
def Outcome.entries (outcome : Outcome) : Dict :=
  [(.text "sql", .text outcome.sql),
    (.text "result", outcome.result),
    (.text "error", .ofOption outcome.error),
    (.text "explanation", .text outcome.explanation),
    (.text "execution_time", .int outcome.executionTime)]

/-! ## Events -/

/-- What happens while a question is answered. -/
inductive Event where
  | received (asked : Asked)
  | ranked (columns : List Scored)
  | analysed (intent : Intent)
  | built (request : Request)
  | done (rows : Nat) (milliseconds : Int)
  | rejected (failure : Failure) (milliseconds : Int)
  | failed (failure : Failure) (milliseconds : Int)
  | unexpected (asked : Asked)

namespace Event

/-- The logger of this module. -/
def processorLogger : String := "apps.bikeshare.processor"

/-- The logger of the analysis. -/
def analysisLogger : String := "apps.bikeshare.intent"

/-- The channel of this module's events. -/
def channel : String := "processor"

/-- How many ranked columns are logged. -/
def loggedColumns : Nat := 5

/-- The payload of a failure. -/
def failurePayload (failure : Failure) (milliseconds : Int) : Dict :=
  [(.text "error", .text failure.message), (.text "kind", .text failure.kind),
    (.text "ms", .int milliseconds)]

/-- The strongest columns with their scores. -/
def rankedValue (ranked : List Scored) : Value :=
  .list ((ranked.take loggedColumns).map fun scored =>
    .tuple [.text scored.column.qualified, .int scored.score])

/--
Room for the payloads of the processor's events, which have at most three levels.  Questions
are answered where there is as much, and any more makes no difference to the records.
-/
def room : Room :=
  { writing := 3, showing := 3, reading := 3 }

/-- An event of the processor's channel. -/
def onChannel (event : String) (payload : Dict) : Except Value.DisplayError Record := do
  pure
    { level := .info
      logger := processorLogger
      channel := some channel
      message := ← eventText room event payload }

/-- The record of an event. -/
def record : Event → Except Value.DisplayError Record
  | .received asked => onChannel "query.receive" [(.text "question", .ofOption asked)]
  | .ranked columns => do
    pure
      { level := .debug
        logger := analysisLogger
        channel := none
        message := "scored columns: " ++ (← (rankedValue columns).plainWithin room.showing) }
  | .analysed intent => onChannel "query.intent" intent.entries
  | .built request =>
    onChannel "query.sql"
      [(.text "sql", .text request.sql), (.text "parameters", .list request.parameters)]
  | .done rows milliseconds =>
    onChannel "query.done" [(.text "rows", .int rows), (.text "ms", .int milliseconds)]
  | .rejected failure milliseconds =>
    onChannel "query.rejected" (failurePayload failure milliseconds)
  | .failed failure milliseconds => onChannel "query.failed" (failurePayload failure milliseconds)
  | .unexpected asked => do
    pure
      { level := .error
        logger := processorLogger
        channel := none
        message :=
          "unexpected failure while answering " ++
            (← (Value.ofOption asked).inspectWithin room.showing) }

end Event

/-! ## Stages -/

/-- A dialogue with an executor. -/
abbrev Commission (α : Type) := Dialogue Request (Except Fault (List Dict)) α

/-- What a successful question gives. -/
structure Success where
  sql : String
  explanation : String
  rows : List Dict
  result : Value

/-- How far a question came: what was logged on the way, and what is left to be executed. -/
structure Progress where
  events : List Event
  rest : Commission (Except Failure Success)

/-- Stops with a failure after some events. -/
def Progress.stopped (events : List Event) (failure : Failure) : Progress :=
  { events, rest := .done (.error failure) }

/-- A fault of an executor, as a failure of the execution. -/
def executionFailure (fault : Fault) : Failure :=
  if fault.kind.root = .execution then .fault fault else .execution fault.text

/-- What is made of an executor's answer to a request. -/
def successOf (request : Request) (explanation : String)
    (answer : Except Fault (List Dict)) : Except Failure Success := do
  let rows ← answer.mapError executionFailure
  let result ← (ofRows rows).mapError Failure.number
  pure { sql := request.sql, explanation, rows, result }

/-- Executes a query and shapes its rows. -/
def finish (request : Request) (explanation : String) : Commission (Except Failure Success) :=
  (Dialogue.call request).map (successOf request explanation)

/-- Builds the query of an intent and goes on to execute it. -/
def buildAndFinish (wellFormed : List Char → Bool) (columns : List Column) (intent : Intent) :
    Progress :=
  match buildWith wellFormed intent.toDraft columns with
  | .error failure => .stopped [] (.build failure)
  | .ok generated =>
    let request : Request := { sql := generated.sql, parameters := generated.parameters }
    { events := [.built request], rest := finish request generated.explanation }

/-- The event of the columns being ranked, which only a valid question comes to. -/
def ranking (columns : List Column) (asked : Asked) : List Event :=
  if isValid asked then [.ranked (rankedColumns asked columns)] else []

/-- Analyses a question about some columns and goes on to build its query. -/
def analyzeAndFinish (wellFormed : List Char → Bool) (columns : List Column) (today : Date)
    (asked : Asked) : Progress :=
  match analyze asked columns today with
  | .error error => .stopped (ranking columns asked) (.ofAnalysis error)
  | .ok intent =>
    let progress := buildAndFinish wellFormed columns intent
    { progress with events := ranking columns asked ++ .analysed intent :: progress.events }

/-- Reads the columns and goes on to analyse a question. -/
def proceed (wellFormed : List Char → Bool) (columns : Except Failure (List Column))
    (today : Date) (asked : Asked) : Progress :=
  match columns with
  | .error failure => .stopped [] failure
  | .ok columns => analyzeAndFinish wellFormed columns today asked

/-- The result of a question with the requests that were executed for it. -/
def attempt (wellFormed : List Char → Bool) (executor : Executor)
    (columns : Except Failure (List Column)) (today : Date) (asked : Asked) :
    Traced Request (Except Failure Success) :=
  (proceed wellFormed columns today asked).rest.hold executor

/-! ## Outcomes -/

/-- The time between two readings of a clock in seconds, in whole milliseconds. -/
def elapsed (started ended : Binary64) : Except NumberError Int :=
  ((ended - started) * 1000).truncate

/-- The outcome of a success. -/
def Success.outcome (success : Success) (milliseconds : Int) : Outcome :=
  { sql := success.sql
    result := success.result
    error := none
    explanation := success.explanation
    executionTime := milliseconds }

/-- The outcome of a failure. -/
def failureOutcome (failure : Failure) (milliseconds : Int) : Outcome :=
  { sql := ""
    result := .null
    error := some failure.report
    explanation := ""
    executionTime := milliseconds }

/-- The outcome of an attempt. -/
def outcomeOf (milliseconds : Int) : Except Failure Success → Outcome
  | .ok success => success.outcome milliseconds
  | .error failure => failureOutcome failure milliseconds

/-- The events that close an attempt. -/
def closing (asked : Asked) (milliseconds : Int) : Except Failure Success → List Event
  | .ok success => [.done success.rows.length milliseconds]
  | .error failure =>
    if failure.isAboutQuery then [.rejected failure milliseconds]
    else [.failed failure milliseconds, .unexpected asked]

/-- A question with everything that happened while it was answered. -/
structure Run where
  /-- The outcome; only unusable readings of the clock keep it from being one. -/
  outcome : Except NumberError Outcome
  events : List Event
  executed : List Request

/-- Answers a question, given the readings of the clock before and after. -/
def run (wellFormed : List Char → Bool) (executor : Executor)
    (columns : Except Failure (List Column)) (today : Date) (asked : Asked)
    (started ended : Binary64) : Run :=
  let logged := .received asked :: (proceed wellFormed columns today asked).events
  let attempted := attempt wellFormed executor columns today asked
  match elapsed started ended with
  | .error error =>
    { outcome := .error error, events := logged, executed := attempted.calls }
  | .ok milliseconds =>
    { outcome := .ok (outcomeOf milliseconds attempted.result)
      events := logged ++ closing asked milliseconds attempted.result
      executed := attempted.calls }

/-- What answers questions, given the readings of the clock before and after. -/
abbrev Answerer := Asked → Binary64 → Binary64 → Run

end RideQuery.Answer
