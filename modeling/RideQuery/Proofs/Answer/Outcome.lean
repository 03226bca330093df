import RideQuery.Answer.Process
import RideQuery.Proofs.Query.Execution
import RideQuery.Surroundings.Sql.Grammar

/-!
# Outcomes of questions

A question is answered in five stages: the columns are read, the question is analysed, its
query is built and executed, and the rows are shaped.  The first three prepare a request,
which is executed once; if they prepare none, nothing is executed.  Whichever stage stops,
the outcome is an error without any part of an answer.
-/

namespace RideQuery

open RideQuery.Number RideQuery.Schema RideQuery.Calendar RideQuery.Question RideQuery.Query

/-! ## Reports -/

theorem numberKind_ne_empty (error : NumberError) : error.kind ≠ "" := by
  unfold NumberError.kind
  split <;> decide

theorem faultKind_ne_empty (kind : FaultKind) : kind.name ≠ "" := by
  cases kind with
  | other name named | special _ _ name named => exact named
  | _ => decide

namespace Failure

/-- Every failure is reported under a kind. -/
theorem kind_ne_empty (failure : Failure) : failure.kind ≠ "" := by
  cases failure with
  | date error =>
      change error.kind ≠ ""
      unfold DateError.kind
      split <;> decide
  | build failure =>
      cases failure with
      | refused error => exact faultKind_ne_empty .build
      | number error => exact numberKind_ne_empty error
  | number error => exact numberKind_ne_empty error
  | write error =>
      change error.kind ≠ ""
      unfold Json.WriteError.kind
      split
      · exact numberKind_ne_empty _
      all_goals decide
  | read error =>
      change error.kind ≠ ""
      unfold Json.ReadError.kind
      split <;> decide
  | template error =>
      change error.kind ≠ ""
      unfold Log.TemplateError.kind
      split
      · exact numberKind_ne_empty _
      all_goals decide
  | fault raised => exact faultKind_ne_empty raised.kind
  | rejected => exact faultKind_ne_empty .validation
  | execution message => exact faultKind_ne_empty .execution
  | missingKey key => exact faultKind_ne_empty .key
  | configuration message => exact faultKind_ne_empty .runtime
  | badValue message => exact faultKind_ne_empty .value
  | tooDeep activity => exact (by decide : Activity.kind ≠ "")

theorem report_ne_empty (failure : Failure) : failure.report ≠ "" := by
  rw [report]
  split
  · exact failure.kind_ne_empty
  · rename_i worded
    exact fun empty => worded (String.isEmpty_iff.mpr empty)

theorem report_eq_message {failure : Failure} (worded : failure.message ≠ "") :
    failure.report = failure.message := by
  rw [report, if_neg]
  exact fun empty => worded (String.isEmpty_iff.mp empty)

end Failure

namespace Answer

/-! ## Readings of the clock -/

/-- Numbers that are neither infinite nor no number at all. -/
inductive IsFinite : Binary64 → Prop
  | finite (negative : Bool) (significand : Nat) (exponent : Int) :
      IsFinite (.finite negative significand exponent)

instance : (x : Binary64) → Decidable (IsFinite x)
  | .finite negative significand exponent => .isTrue (.finite negative significand exponent)
  | .infinity _ => .isFalse nofun
  | .nan => .isFalse nofun

theorem exists_truncate_iff {x : Binary64} : (∃ n, x.truncate = .ok n) ↔ IsFinite x := by
  cases x with
  | nan => exact iff_of_false nofun nofun
  | infinity negative => exact iff_of_false nofun nofun
  | finite negative significand exponent => exact iff_of_true ⟨_, rfl⟩ (.finite ..)

/-! ## Stages -/

variable {wellFormed : List Char → Bool} {executor : Executor}
  {columns : Except Failure (List Column)} {today : Date} {asked : Asked}

/-- Requests that the first three stages prepare: a query of the question over the columns. -/
def Prepares (wellFormed : List Char → Bool) (columns : Except Failure (List Column))
    (today : Date) (asked : Asked) (request : Request) : Prop :=
  ∃ known intent generated, columns = .ok known ∧ analyze asked known today = .ok intent ∧
    buildWith wellFormed intent.toDraft known = .ok generated ∧
    request = { sql := generated.sql, parameters := generated.parameters }

/-- The messages that a stage can stop with. -/
inductive StopsWith (wellFormed : List Char → Bool) (executor : Executor)
    (columns : Except Failure (List Column)) (today : Date) (asked : Asked) : String → Prop
  | reading {failure : Failure} (unread : columns = .error failure) :
      StopsWith wellFormed executor columns today asked failure.message
  | analysis {known : List Column} {error : AnalysisError} (read : columns = .ok known)
      (unanalysed : analyze asked known today = .error error) :
      StopsWith wellFormed executor columns today asked (Failure.ofAnalysis error).message
  | building {known : List Column} {intent : Intent} {failure : BuildFailure}
      (read : columns = .ok known) (analysed : analyze asked known today = .ok intent)
      (unbuilt : buildWith wellFormed intent.toDraft known = .error failure) :
      StopsWith wellFormed executor columns today asked failure.message
  | execution {request : Request} {fault : Fault}
      (prepared : Prepares wellFormed columns today asked request)
      (unexecuted : executor request = .error fault) :
      StopsWith wellFormed executor columns today asked fault.text
  | shaping {request : Request} {rows : List Dict} {error : NumberError}
      (prepared : Prepares wellFormed columns today asked request)
      (executed : executor request = .ok rows) (unshaped : ofRows rows = .error error) :
      StopsWith wellFormed executor columns today asked error.message

theorem proceed_of_unanalysed {known : List Column} {error : AnalysisError}
    (unanalysed : analyze asked known today = .error error) :
    proceed wellFormed (.ok known) today asked =
      .stopped (ranking known asked) (.ofAnalysis error) := by
  simp only [proceed, analyzeAndFinish, unanalysed]

theorem proceed_of_unbuilt {known : List Column} {intent : Intent} {failure : BuildFailure}
    (analysed : analyze asked known today = .ok intent)
    (unbuilt : buildWith wellFormed intent.toDraft known = .error failure) :
    proceed wellFormed (.ok known) today asked =
      .stopped (ranking known asked ++ [.analysed intent]) (.build failure) := by
  simp only [proceed, analyzeAndFinish, analysed, buildAndFinish, unbuilt, Progress.stopped]

theorem proceed_of_built {known : List Column} {intent : Intent} {generated : Generated}
    (analysed : analyze asked known today = .ok intent)
    (built : buildWith wellFormed intent.toDraft known = .ok generated) :
    let request : Request := { sql := generated.sql, parameters := generated.parameters }
    proceed wellFormed (.ok known) today asked =
      { events := ranking known asked ++ [.analysed intent, .built request]
        rest := finish request generated.explanation } := by
  simp only [proceed, analyzeAndFinish, analysed, buildAndFinish, built]

/-- Where a stage stops, nothing is executed. -/
theorem attempt_of_stopped {events : List Event} {failure : Failure}
    (stopped : proceed wellFormed columns today asked = .stopped events failure)
    (executor : Executor) :
    attempt wellFormed executor columns today asked = { result := .error failure, calls := [] } := by
  rw [attempt, stopped, Progress.stopped, Dialogue.hold_done]

/-- A request that the stages come to is executed, and a success is made of the answer. -/
theorem attempt_of_finish {events : List Event} {request : Request} {explanation : String}
    (proceeds : proceed wellFormed columns today asked =
      { events, rest := finish request explanation }) (executor : Executor) :
    attempt wellFormed executor columns today asked =
      { result := successOf request explanation (executor request), calls := [request] } := by
  rw [attempt, proceeds, finish, Dialogue.hold_map, Dialogue.hold_call]

theorem successOf_error (request : Request) (explanation : String) (fault : Fault) :
    successOf request explanation (.error fault) = .error (executionFailure fault) :=
  rfl

theorem successOf_ok (request : Request) (explanation : String) (rows : List Dict) :
    successOf request explanation (.ok rows) =
      ((ofRows rows).mapError Failure.number).map fun result =>
        { sql := request.sql, explanation, rows, result } :=
  rfl

theorem executionFailure_message (fault : Fault) :
    (executionFailure fault).message = fault.text := by
  rw [executionFailure]
  split <;> rfl

/-- The statement of a request is never empty. -/
theorem Prepares.sql_ne_empty {request : Request}
    (prepared : Prepares wellFormed columns today asked request) : request.sql ≠ "" := by
  obtain ⟨_, _, generated, _, _, _, rfl⟩ := prepared
  obtain ⟨rest, selects⟩ := generated.statement.exists_text_eq
  intro empty
  have none : generated.statement.text = [] := String.ofList_eq_empty_iff.mp empty
  rw [selects] at none
  exact absurd (List.append_eq_nil_iff.mp none).1 (by decide)

theorem Prepares.unique {request other : Request}
    (prepared : Prepares wellFormed columns today asked request)
    (again : Prepares wellFormed columns today asked other) : request = other := by
  obtain ⟨known, intent, generated, read, analysed, built, rfl⟩ := prepared
  obtain ⟨_, _, _, readAgain, analysedAgain, builtAgain, rfl⟩ := again
  obtain rfl := Except.ok.inj (read.symm.trans readAgain)
  obtain rfl := Except.ok.inj (analysed.symm.trans analysedAgain)
  obtain rfl := Except.ok.inj (built.symm.trans builtAgain)
  rfl

/-- One of the first three stages stops, or all of them are passed. -/
theorem stages_cases (wellFormed : List Char → Bool) (columns : Except Failure (List Column))
    (today : Date) (asked : Asked) :
    (∃ failure, columns = .error failure) ∨
    (∃ known error, columns = .ok known ∧ analyze asked known today = .error error) ∨
    (∃ known intent failure, columns = .ok known ∧ analyze asked known today = .ok intent ∧
      buildWith wellFormed intent.toDraft known = .error failure) ∨
    ∃ known intent generated, columns = .ok known ∧ analyze asked known today = .ok intent ∧
      buildWith wellFormed intent.toDraft known = .ok generated := by
  cases columns with
  | error failure => exact .inl ⟨failure, rfl⟩
  | ok known =>
      refine .inr ?_
      cases analysed : analyze asked known today with
      | error error => exact .inl ⟨known, error, rfl, analysed⟩
      | ok intent =>
          refine .inr ?_
          cases built : buildWith wellFormed intent.toDraft known with
          | error failure => exact .inl ⟨known, intent, failure, rfl, analysed, built⟩
          | ok generated => exact .inr ⟨known, intent, generated, rfl, analysed, built⟩

/-- A request is only prepared of a question that is analysed. -/
theorem not_prepares_of_unanalysed {known : List Column} {error : AnalysisError}
    (unanalysed : analyze asked known today = .error error) (request : Request) :
    ¬ Prepares wellFormed (.ok known) today asked request := by
  rintro ⟨_, _, _, ⟨⟩, analysed, _⟩
  rw [unanalysed] at analysed
  contradiction

/-- A request is only prepared if its query is built. -/
theorem not_prepares_of_unbuilt {known : List Column} {intent : Intent} {failure : BuildFailure}
    (analysed : analyze asked known today = .ok intent)
    (unbuilt : buildWith wellFormed intent.toDraft known = .error failure) (request : Request) :
    ¬ Prepares wellFormed (.ok known) today asked request := by
  rintro ⟨_, _, _, ⟨⟩, found, built, _⟩
  obtain rfl := Except.ok.inj (analysed.symm.trans found)
  rw [unbuilt] at built
  contradiction

/-- A request is only prepared if the columns are read. -/
theorem not_prepares_of_unread (failure : Failure) (request : Request) :
    ¬ Prepares wellFormed (.error failure) today asked request := by
  rintro ⟨_, _, _, read, _⟩
  contradiction

/--
Either the first three stages prepare a request, and it is executed once and its rows are
shaped, or one of them stops and nothing is executed.
-/
theorem attempt_cases (wellFormed : List Char → Bool) (executor : Executor)
    (columns : Except Failure (List Column)) (today : Date) (asked : Asked) :
    (∃ request explanation, Prepares wellFormed columns today asked request ∧
      attempt wellFormed executor columns today asked =
        { result := successOf request explanation (executor request), calls := [request] }) ∨
    (∃ failure, (∀ request, ¬Prepares wellFormed columns today asked request) ∧
      StopsWith wellFormed executor columns today asked failure.message ∧
      attempt wellFormed executor columns today asked =
        { result := .error failure, calls := [] }) := by
  rcases stages_cases wellFormed columns today asked with ⟨failure, rfl⟩ |
    ⟨known, error, rfl, unanalysed⟩ | ⟨known, intent, failure, rfl, analysed, unbuilt⟩ |
    ⟨known, intent, generated, rfl, analysed, built⟩
  · exact .inr ⟨failure, not_prepares_of_unread failure, .reading rfl,
      attempt_of_stopped rfl executor⟩
  · exact .inr ⟨_, not_prepares_of_unanalysed unanalysed, .analysis rfl unanalysed,
      attempt_of_stopped (proceed_of_unanalysed unanalysed) executor⟩
  · exact .inr ⟨_, not_prepares_of_unbuilt analysed unbuilt, .building rfl analysed unbuilt,
      attempt_of_stopped (proceed_of_unbuilt analysed unbuilt) executor⟩
  · exact .inl ⟨_, generated.explanation, ⟨known, intent, generated, rfl, analysed, built, rfl⟩,
      attempt_of_finish (proceed_of_built analysed built) executor⟩

/-! ## Outcomes -/

/-- Outcomes of a question that was answered: all of the answer, and no error. -/
structure IsAnswer (request : Request) (rows : List Dict) (outcome : Outcome) : Prop where
  error : outcome.error = none
  sql : outcome.sql = request.sql
  nonempty : outcome.sql ≠ ""
  result : ofRows rows = .ok outcome.result

/-- Outcomes of a question that was not answered: an error, and nothing of an answer. -/
structure IsError (message : String) (outcome : Outcome) : Prop where
  sql : outcome.sql = ""
  result : outcome.result = .null
  explanation : outcome.explanation = ""
  error : ∃ text, outcome.error = some text ∧ text ≠ "" ∧ (message ≠ "" → text = message)

theorem isError_failureOutcome (failure : Failure) (milliseconds : Int) :
    IsError failure.message (failureOutcome failure milliseconds) where
  sql := rfl
  result := rfl
  explanation := rfl
  error := ⟨failure.report, rfl, failure.report_ne_empty, Failure.report_eq_message⟩

/-- Executing a prepared request and shaping its rows gives an answer or an error. -/
theorem outcome_successOf {request : Request}
    (prepared : Prepares wellFormed columns today asked request) (executor : Executor)
    (explanation : String) (milliseconds : Int) :
    (∃ rows, executor request = .ok rows ∧ IsAnswer request rows
        (outcomeOf milliseconds (successOf request explanation (executor request)))) ∨
      ∃ message, StopsWith wellFormed executor columns today asked message ∧ IsError message
        (outcomeOf milliseconds (successOf request explanation (executor request))) := by
  cases executed : executor request with
  | error fault =>
      refine .inr ⟨fault.text, .execution prepared executed, ?_⟩
      rw [successOf_error, ← executionFailure_message]
      exact isError_failureOutcome (executionFailure fault) milliseconds
  | ok rows =>
      rw [successOf_ok]
      cases shaped : ofRows rows with
      | error error =>
          exact .inr ⟨error.message, .shaping prepared executed shaped,
            isError_failureOutcome (.number error) milliseconds⟩
      | ok result =>
          exact .inl ⟨rows, rfl, ⟨rfl, rfl, prepared.sql_ne_empty, shaped⟩⟩

/-- A run that the clock does not spoil has the outcome of its attempt. -/
theorem run_of_isFinite {started ended : Binary64}
    (finite : IsFinite ((ended - started) * 1000)) (wellFormed : List Char → Bool)
    (executor : Executor) (columns : Except Failure (List Column)) (today : Date)
    (asked : Asked) :
    ∃ milliseconds,
      (run wellFormed executor columns today asked started ended).outcome =
        .ok (outcomeOf milliseconds (attempt wellFormed executor columns today asked).result) := by
  obtain ⟨milliseconds, passed⟩ := exists_truncate_iff.mpr finite
  have elapsed : elapsed started ended = .ok milliseconds := passed
  refine ⟨milliseconds, ?_⟩
  simp only [run, elapsed]

/-- What a run executes does not depend on the clock. -/
theorem executed_run (started ended : Binary64) :
    (run wellFormed executor columns today asked started ended).executed =
      (attempt wellFormed executor columns today asked).calls := by
  unfold run
  dsimp only
  split <;> rfl

/--
A question always has an outcome, unless the readings of the clock are too far apart to be
told in milliseconds, and the outcome is all or nothing.  Either a request is prepared,
executed and its rows shaped, and the outcome is that of these rows, without an error; or
some stage stops with a message, and the outcome is the error, whose text is the message if
there is one.  The request that is prepared is executed once, and nothing else is.
-/
theorem exists_outcome_run (wellFormed : List Char → Bool) (executor : Executor)
    (columns : Except Failure (List Column)) (today : Date) (asked : Asked)
    (started ended : Binary64) (finite : IsFinite ((ended - started) * 1000)) :
    ∃ outcome,
      (run wellFormed executor columns today asked started ended).outcome = .ok outcome ∧
      ((∃ request rows, Prepares wellFormed columns today asked request ∧
          executor request = .ok rows ∧ IsAnswer request rows outcome) ∨
        ∃ message, StopsWith wellFormed executor columns today asked message ∧
          IsError message outcome) ∧
      (∀ request, Prepares wellFormed columns today asked request →
        (run wellFormed executor columns today asked started ended).executed = [request]) ∧
      ((∀ request, ¬Prepares wellFormed columns today asked request) →
        (run wellFormed executor columns today asked started ended).executed = []) := by
  obtain ⟨milliseconds, settled⟩ :=
    run_of_isFinite finite wellFormed executor columns today asked
  refine ⟨_, settled, ?_⟩
  rw [executed_run]
  rcases attempt_cases wellFormed executor columns today asked with
    ⟨request, explanation, prepared, attempted⟩ | ⟨failure, unprepared, stops, attempted⟩
  · rw [attempted]
    refine ⟨?_, ?_, fun unprepared => absurd prepared (unprepared request)⟩
    · rcases outcome_successOf prepared executor explanation milliseconds with
        ⟨rows, executed, answer⟩ | failed
      · exact .inl ⟨request, rows, prepared, executed, answer⟩
      · exact .inr failed
    · intro other otherPrepared
      rw [prepared.unique otherPrepared]
  · rw [attempted]
    exact ⟨.inr ⟨failure.message, stops, isError_failureOutcome failure milliseconds⟩,
      fun request prepared => absurd prepared (unprepared request), fun _ => rfl⟩

/-- A question that needs no column. -/
def countQuestion : Asked :=
  some "How many trips were taken?"

theorem exists_outcome_run_sample :
    IsFinite (((1 : Binary64) - 0) * 1000) ∧
      ∃ outcome request,
        (run Sql.Grammar.accepts (fun _ => .ok []) (.ok []) ⟨2025, 6, 15, by decide⟩
          countQuestion 0 1).outcome = .ok outcome ∧
        request.sql = "SELECT COUNT(*) AS total_count FROM trips t" ∧
        (run Sql.Grammar.accepts (fun _ => .ok []) (.ok []) ⟨2025, 6, 15, by decide⟩
          countQuestion 0 1).executed = [request] := by
  have finite : IsFinite (((1 : Binary64) - 0) * 1000) := by decide +kernel
  have computed : (analyze countQuestion [] ⟨2025, 6, 15, by decide⟩).map (fun intent =>
      (buildWith Sql.Grammar.accepts intent.toDraft []).map Generated.sql) =
      .ok (.ok "SELECT COUNT(*) AS total_count FROM trips t") := by decide +kernel
  obtain ⟨intent, analysed, query⟩ := map_eq_ok_iff.mp computed
  obtain ⟨generated, built, sql⟩ := map_eq_ok_iff.mp query
  obtain ⟨outcome, settled, _, once, _⟩ := exists_outcome_run Sql.Grammar.accepts
    (fun _ => .ok []) (.ok []) ⟨2025, 6, 15, by decide⟩ countQuestion 0 1 finite
  exact ⟨finite, outcome, _, settled, sql,
    once _ ⟨[], intent, generated, rfl, analysed, built, rfl⟩⟩

/-- Readings that are finite by themselves can be too far apart. -/
theorem run_overflow :
    IsFinite 0 ∧ IsFinite (.ofDecimal false 1 306) ∧
      (run Sql.Grammar.accepts (fun _ => .ok []) (.ok []) ⟨2025, 6, 15, by decide⟩
        (some "") 0 (.ofDecimal false 1 306)).outcome = .error .infinityToInteger := by
  have passed : elapsed 0 (.ofDecimal false 1 306) = .error .infinityToInteger := by
    decide +kernel
  refine ⟨by decide +kernel, by decide +kernel, ?_⟩
  simp only [run, passed]

end Answer

end RideQuery
