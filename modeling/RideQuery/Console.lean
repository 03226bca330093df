import RideQuery.Answer.Process

/-!
# Command line

Asking one question, or all the samples, from a terminal.  Every answer is printed
as indented JSON, and the exit code tells whether all questions were answered.
-/

namespace RideQuery.Console

open RideQuery.Number RideQuery.Answer

/-- What the command line is asked to do. -/
inductive Command where
  | samples
  | ask (question : String)
  deriving DecidableEq

/-- How the program is called. -/
def usage : String :=
  "usage: python -m apps.bikeshare.cli <ask|samples> [question]"

/-- How a question is asked. -/
def askUsage : String :=
  "usage: python -m apps.bikeshare.cli ask <question>"

namespace Command

/-- The command of some arguments, or what is printed in place of its answers. -/
def ofArguments : List String → Except String Command
  | [] => .error usage
  | "samples" :: _ => .ok .samples
  | ["ask"] => .error askUsage
  | "ask" :: parts => .ok (.ask (" ".intercalate parts))
  | name :: _ => .error ("unknown command: " ++ name)

/-- The questions that a command asks. -/
def questions : Command → List String
  | .samples => sampleQuestions
  | .ask question => [question]

end Command

/-- What was printed, the exit code, and the statements that were executed. -/
structure Transcript where
  output : String
  code : Nat
  executed : List Request

/-- The exit code of a call that could not be understood. -/
def misuse : Nat := 2

/-- The exit code for a number of questions without an answer. -/
def codeFor (failures : Nat) : Nat :=
  if failures = 0 then 0 else 1

/-- A question with its outcome, as it is printed. -/
def written (room : Room) (question : String) (outcome : Outcome) : Except Failure String := do
  let entries := (.text "question", .text question) :: outcome.entries
  let text ← (Json.write Json.Style.console room.writing (.dict entries)).mapError Failure.write
  pure (text ++ "\n")

/-- An answered question: what is printed, whether it failed, and what was executed. -/
structure Reply where
  output : String
  failed : Bool
  executed : List Request

/-- Answers a question between two readings of the clock. -/
def reply (room : Room) (answerer : Answerer) (question : String) (started ended : Binary64) :
    Except Failure Reply := do
  let run := answerer (some question) started ended
  let outcome ← run.outcome.mapError Failure.number
  pure
    { output := ← written room question outcome
      failed := outcome.error.isSome
      executed := run.executed }

/-- Answers questions, taking two readings of the clock for each, or nought if there are no more. -/
def replies (room : Room) (answerer : Answerer) :
    List String → List Binary64 → Except Failure (List Reply)
  | [], _ => .ok []
  | question :: rest, readings => do
    let answered ← reply room answerer question (readings[0]?.getD 0) (readings[1]?.getD 0)
    pure (answered :: (← replies room answerer rest (readings.drop 2)))

/-- What some replies come to. -/
def summary (replies : List Reply) : Transcript :=
  { output := String.join (replies.map Reply.output)
    code := codeFor (replies.countP Reply.failed)
    executed := replies.flatMap Reply.executed }

/-- What is printed for a call that could not be understood. -/
def refusal (message : String) : Transcript :=
  { output := message ++ "\n", code := misuse, executed := [] }

/--
Does what the arguments ask for.  A call that cannot be understood is refused
before it matters whether there is anything to answer questions.
-/
def transcribe (room : Room) (answerer : Except Failure Answerer) (readings : List Binary64)
    (arguments : List String) : Except Failure Transcript :=
  match Command.ofArguments arguments with
  | .error message => .ok (refusal message)
  | .ok command => do
    pure (summary (← replies room (← answerer) command.questions readings))

end RideQuery.Console
