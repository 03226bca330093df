import RideQuery.Proofs.Answer.Outcome
import RideQuery.Proofs.Answer.Record
import RideQuery.Proofs.Log.Line

/-!
# Trails of questions

What the records of a question tell: that it was received, whether it was analysed and
whether its query was built, and how it ended.  A failure of the program is followed by an
alarm outside the channel.
-/

namespace RideQuery.Answer

open RideQuery.Number RideQuery.Schema RideQuery.Calendar RideQuery.Question RideQuery.Query
open RideQuery.Log

/-! ## Records of several events -/

/-- Whether a record is one of the channel's. -/
def isOnChannel (record : Record) : Bool :=
  record.channel == some Event.channel

/-- Whether a record is one of the processor's logger. -/
def isByProcessor (record : Record) : Bool :=
  record.logger == Event.processorLogger

/-- Whether an event is an alarm. -/
def Event.isAlarm : Event → Bool
  | .unexpected _ => true
  | _ => false

theorem Event.isAlarm_of_name {event : Event} {name : String} (named : event.name? = some name) :
    event.isAlarm = false := by
  cases event <;> first | rfl | contradiction

/-- Events without an alarm among them, which have some names on the channel. -/
structure IsStory (events : List Event) (names : List String) : Prop where
  writable : ∀ event ∈ events, event.IsWritable
  calm : ∀ event ∈ events, event.isAlarm = false
  names_eq : events.filterMap Event.name? = names

namespace IsStory

theorem single {event : Event} {name : String} (named : event.name? = some name)
    (writable : event.IsWritable) : IsStory [event] [name] where
  writable := List.forall_mem_singleton.mpr writable
  calm := List.forall_mem_singleton.mpr (Event.isAlarm_of_name named)
  names_eq := by rw [List.filterMap_cons_some named, List.filterMap_nil]

theorem append {events more : List Event} {names others : List String}
    (first : IsStory events names) (rest : IsStory more others) :
    IsStory (events ++ more) (names ++ others) where
  writable := List.forall_mem_append.mpr ⟨first.writable, rest.writable⟩
  calm := List.forall_mem_append.mpr ⟨first.calm, rest.calm⟩
  names_eq := by rw [List.filterMap_append, first.names_eq, rest.names_eq]

end IsStory

/-- The records of events on the channel tell the names that the events have there. -/
theorem forall₂_isMark {events : List Event} {records : List Record}
    (recorded : List.Forall₂ Event.IsRecordedAs events records) :
    List.Forall₂ Event.IsMark (events.filterMap Event.name?) (records.filter isOnChannel) := by
  induction recorded with
  | nil => exact .nil
  | @cons event record events records first _ inductionHypothesis =>
      cases first with
      | mark named marks =>
          have inside : isOnChannel record = true := beq_iff_eq.mpr marks.channel
          rw [List.filterMap_cons_some named, List.filter_cons_of_pos inside]
          exact .cons marks inductionHypothesis
      | ranking _ silent =>
          -- What is off the channel has no name there, so both lists pass over it.
          have outside : ¬isOnChannel record = true := by simp [isOnChannel, silent]
          rw [List.filterMap_cons_none rfl, List.filter_cons_of_neg outside]
          exact inductionHypothesis
      | alarm _ _ silent =>
          have outside : ¬isOnChannel record = true := by simp [isOnChannel, silent]
          rw [List.filterMap_cons_none rfl, List.filter_cons_of_neg outside]
          exact inductionHypothesis

/-- Alarms apart, the processor's logger records what is on the channel, and nothing else. -/
theorem isByProcessor_eq_isOnChannel {event : Event} {record : Record}
    (recorded : event.IsRecordedAs record) (calm : event.isAlarm = false) :
    isByProcessor record = isOnChannel record := by
  cases recorded with
  | mark named marks => simp [isByProcessor, isOnChannel, marks.logger, marks.channel]
  | ranking logger silent => simp [isByProcessor, isOnChannel, logger, silent]
  | alarm => contradiction

theorem IsStory.exists_records {events : List Event} {names : List String}
    (story : IsStory events names) :
    ∃ records, events.mapM Event.record = .ok records ∧
      List.Forall₂ Event.IsMark names (records.filter isOnChannel) ∧
      records.filter isByProcessor = records.filter isOnChannel := by
  obtain ⟨records, traversed⟩ := exists_mapM_eq_ok_iff.mpr fun event member =>
    (Event.exists_record (story.writable event member)).imp fun _ recorded => recorded.1
  -- The records of the traversal are the only ones, so what is known of some holds for them.
  have recorded : List.Forall₂ Event.IsRecordedAs events records := by
    refine forall₂_of_mem (mapM_eq_ok_iff.mp traversed) fun event member record _ found => ?_
    obtain ⟨_, same, recorded⟩ := Event.exists_record (story.writable event member)
    obtain rfl := Except.ok.inj (found.symm.trans same)
    exact recorded
  refine ⟨records, traversed, ?_, List.filter_congr fun record member => ?_⟩
  · rw [← story.names_eq]
    exact forall₂_isMark recorded
  · obtain ⟨event, inside, isRecord⟩ := exists_of_mem_forall₂ recorded record member
    exact isByProcessor_eq_isOnChannel isRecord (story.calm event inside)

/-! ## Endings -/

/-- How a question ends. -/
inductive Ending where
  | done
  | rejected
  | failed
  deriving DecidableEq

namespace Ending

/-- The event that an ending is told by. -/
def name : Ending → String
  | .done => "query.done"
  | .rejected => "query.rejected"
  | .failed => "query.failed"

/-- The levels and channels of the alarms that follow an ending. -/
def alarms : Ending → List (Level × Option String)
  | .failed => [(.error, none)]
  | _ => []

/-- The ending that a result leads to. -/
def ofResult : Except Failure Success → Ending
  | .ok _ => .done
  | .error failure => if failure.isAboutQuery then .rejected else .failed

theorem ofResult_eq_done_iff {result : Except Failure Success} {milliseconds : Int} :
    ofResult result = .done ↔ (outcomeOf milliseconds result).error = none := by
  cases result with
  | ok success => exact iff_of_true rfl rfl
  | error failure =>
      refine iff_of_false ?_ nofun
      rw [ofResult]
      split <;> nofun

theorem ofResult_eq_rejected_iff {result : Except Failure Success} :
    ofResult result = .rejected ↔
      ∃ failure, result = .error failure ∧ failure.isAboutQuery = true := by
  cases result with
  | ok success => simp [ofResult]
  | error failure => simp [ofResult]

theorem ofResult_eq_failed_iff {result : Except Failure Success} :
    ofResult result = .failed ↔
      ∃ failure, result = .error failure ∧ failure.isAboutQuery = false := by
  cases result with
  | ok success => simp [ofResult]
  | error failure => simp [ofResult]

end Ending

/-- Records outside the channel that the processor's logger raises after an ending. -/
structure AreAlarms (ending : Ending) (records : List Record) : Prop where
  off : records.filter isOnChannel = []
  byProcessor : records.filter isByProcessor = records
  alarms : records.map (fun record => (record.level, record.channel)) = ending.alarms

theorem areAlarms_nil {ending : Ending} (quiet : ending.alarms = []) : AreAlarms ending [] :=
  ⟨rfl, rfl, quiet.symm⟩

/-- What closes an attempt is the event of its ending, with an alarm behind it if it failed. -/
theorem exists_closing (asked : Asked) {milliseconds : Int} {result : Except Failure Success}
    (short : digitCount milliseconds.natAbs ≤ maxDigits)
    (counted : ∀ success, result = .ok success → digitCount success.rows.length ≤ maxDigits) :
    ∃ event alarms records, closing asked milliseconds result = [event] ++ alarms ∧
      IsStory [event] [(Ending.ofResult result).name] ∧
      alarms.mapM Event.record = .ok records ∧ AreAlarms (Ending.ofResult result) records := by
  cases result with
  | ok success =>
      exact ⟨_, [], [], rfl, .single rfl ⟨counted success rfl, short⟩, rfl, areAlarms_nil rfl⟩
  | error failure =>
      rw [closing, Ending.ofResult]
      cases failure.isAboutQuery with
      | true => exact ⟨_, [], [], rfl, .single rfl short, rfl, areAlarms_nil rfl⟩
      | false =>
          obtain ⟨record, recorded, isRecord⟩ := @Event.exists_record (.unexpected asked) trivial
          cases isRecord with
          | mark named => contradiction
          | alarm level logger silent =>
              refine ⟨_, [.unexpected asked], [record], rfl, .single rfl short, ?_, ?_⟩
              · rw [List.mapM_cons, recorded]
                rfl
              · exact ⟨by simp [isOnChannel, silent], by simp [isByProcessor, logger],
                  by rw [List.map_singleton, level, silent]; rfl⟩

/-! ## Stages -/

variable {wellFormed : List Char → Bool} {executor : Executor}
  {columns : Except Failure (List Column)} {today : Date} {asked : Asked}

/-- Intents that the first two stages find: what the question asks of the columns. -/
def Analyses (columns : Except Failure (List Column)) (today : Date) (asked : Asked)
    (intent : Intent) : Prop :=
  ∃ known, columns = .ok known ∧ analyze asked known today = .ok intent

/-- The failures that a stage can stop with. -/
inductive FailsWith (wellFormed : List Char → Bool) (executor : Executor)
    (columns : Except Failure (List Column)) (today : Date) (asked : Asked) : Failure → Prop
  | reading {failure : Failure} (unread : columns = .error failure) :
      FailsWith wellFormed executor columns today asked failure
  | analysis {known : List Column} {error : AnalysisError} (read : columns = .ok known)
      (unanalysed : analyze asked known today = .error error) :
      FailsWith wellFormed executor columns today asked (.ofAnalysis error)
  | building {known : List Column} {intent : Intent} {failure : BuildFailure}
      (read : columns = .ok known) (analysed : analyze asked known today = .ok intent)
      (unbuilt : buildWith wellFormed intent.toDraft known = .error failure) :
      FailsWith wellFormed executor columns today asked (.build failure)
  | execution {request : Request} {fault : Fault}
      (prepared : Prepares wellFormed columns today asked request)
      (unexecuted : executor request = .error fault) :
      FailsWith wellFormed executor columns today asked (executionFailure fault)
  | shaping {request : Request} {rows : List Dict} {error : NumberError}
      (prepared : Prepares wellFormed columns today asked request)
      (executed : executor request = .ok rows) (unshaped : ofRows rows = .error error) :
      FailsWith wellFormed executor columns today asked (.number error)

/-- Whatever an executor raises is a failure about the question. -/
theorem isAboutQuery_executionFailure (fault : Fault) :
    (executionFailure fault).isAboutQuery = true := by
  rw [executionFailure]
  split
  · rename_i isExecution
    rw [Failure.isAboutQuery, FaultKind.isAboutQuery, isExecution]
  · rfl

/-- A prepared request is what the attempt goes on with. -/
theorem Prepares.exists_attempt {request : Request}
    (prepared : Prepares wellFormed columns today asked request) (executor : Executor) :
    ∃ explanation, (attempt wellFormed executor columns today asked).result =
      successOf request explanation (executor request) := by
  obtain ⟨known, intent, generated, rfl, analysed, built, rfl⟩ := prepared
  exact ⟨generated.explanation,
    by rw [attempt_of_finish (proceed_of_built analysed built) executor]⟩

theorem FailsWith.attempt_eq {failure : Failure}
    (fails : FailsWith wellFormed executor columns today asked failure) :
    (attempt wellFormed executor columns today asked).result = .error failure := by
  cases fails with
  | reading unread =>
      subst unread
      rfl
  | analysis read unanalysed =>
      rw [read, attempt_of_stopped (proceed_of_unanalysed unanalysed) executor]
  | building read analysed unbuilt =>
      rw [read, attempt_of_stopped (proceed_of_unbuilt analysed unbuilt) executor]
  | execution prepared unexecuted =>
      obtain ⟨explanation, attempted⟩ := prepared.exists_attempt executor
      rw [attempted, unexecuted, successOf_error]
  | shaping prepared executed unshaped =>
      obtain ⟨explanation, attempted⟩ := prepared.exists_attempt executor
      rw [attempted, executed, successOf_ok, unshaped]
      rfl

/-- An attempt gives rows of the executor, or fails with the failure of a stage. -/
theorem attempt_ends (wellFormed : List Char → Bool) (executor : Executor)
    (columns : Except Failure (List Column)) (today : Date) (asked : Asked) :
    (∃ success request, (attempt wellFormed executor columns today asked).result = .ok success ∧
      executor request = .ok success.rows) ∨
    ∃ failure, FailsWith wellFormed executor columns today asked failure := by
  rcases stages_cases wellFormed columns today asked with ⟨failure, unread⟩ |
    ⟨known, error, read, unanalysed⟩ | ⟨known, intent, failure, read, analysed, unbuilt⟩ |
    ⟨known, intent, generated, read, analysed, built⟩
  · exact .inr ⟨failure, .reading unread⟩
  · exact .inr ⟨_, .analysis read unanalysed⟩
  · exact .inr ⟨_, .building read analysed unbuilt⟩
  · have prepared : Prepares wellFormed columns today asked _ :=
      ⟨known, intent, generated, read, analysed, built, rfl⟩
    obtain ⟨explanation, attempted⟩ := prepared.exists_attempt executor
    cases executed : executor _ with
    | error fault => exact .inr ⟨_, .execution prepared executed⟩
    | ok rows =>
        rw [executed, successOf_ok] at attempted
        cases shaped : ofRows rows with
        | error error => exact .inr ⟨_, .shaping prepared executed shaped⟩
        | ok result =>
            rw [shaped] at attempted
            exact .inl ⟨_, _, attempted, executed⟩

theorem attempt_eq_error_iff {failure : Failure} :
    (attempt wellFormed executor columns today asked).result = .error failure ↔
      FailsWith wellFormed executor columns today asked failure := by
  refine ⟨fun attempted => ?_, FailsWith.attempt_eq⟩
  rcases attempt_ends wellFormed executor columns today asked with
    ⟨success, _, succeeded, _⟩ | ⟨other, fails⟩
  · exact nomatch attempted.symm.trans succeeded
  · obtain rfl := Except.error.inj (attempted.symm.trans fails.attempt_eq)
    exact fails

/-! ## Trails -/

/-- What is told of a question: how far it came, and how it ended. -/
structure Trail where
  analysed : Bool
  built : Bool
  ending : Ending

namespace Trail

/-- The names of the events on the channel before the last one. -/
def progress (trail : Trail) : List String :=
  (if trail.analysed then ["query.intent"] else []) ++ (if trail.built then ["query.sql"] else [])

/-- The names of the events on the channel. -/
def names (trail : Trail) : List String :=
  "query.receive" :: (trail.progress ++ [trail.ending.name])

/-- Trails that tell how far a question comes and how it ends. -/
structure IsOf (wellFormed : List Char → Bool) (executor : Executor)
    (columns : Except Failure (List Column)) (today : Date) (asked : Asked) (trail : Trail) :
    Prop where
  analysed : trail.analysed = true ↔ ∃ intent, Analyses columns today asked intent
  built : trail.built = true ↔ ∃ request, Prepares wellFormed columns today asked request
  rejected : trail.ending = .rejected ↔
    ∃ failure, FailsWith wellFormed executor columns today asked failure ∧
      failure.isAboutQuery = true
  failed : trail.ending = .failed ↔
    ∃ failure, FailsWith wellFormed executor columns today asked failure ∧
      failure.isAboutQuery = false

/-- Records that leave a trail: its names on the channel, and the alarms of its ending behind. -/
structure IsLeftBy (trail : Trail) (records : List Record) : Prop where
  marks : List.Forall₂ Event.IsMark trail.names (records.filter isOnChannel)
  alarms : ∃ alarms, records.filter isByProcessor = records.filter isOnChannel ++ alarms ∧
    alarms.map (fun record => (record.level, record.channel)) = trail.ending.alarms

/-- The ending of a trail is known from the attempt. -/
theorem isOf_of_ending {trail : Trail}
    (analysed : trail.analysed = true ↔ ∃ intent, Analyses columns today asked intent)
    (built : trail.built = true ↔ ∃ request, Prepares wellFormed columns today asked request)
    (ending : trail.ending =
      Ending.ofResult (attempt wellFormed executor columns today asked).result) :
    trail.IsOf wellFormed executor columns today asked where
  analysed := analysed
  built := built
  rejected := by simp only [ending, Ending.ofResult_eq_rejected_iff, attempt_eq_error_iff]
  failed := by simp only [ending, Ending.ofResult_eq_failed_iff, attempt_eq_error_iff]

end Trail

theorem isStory_ranking (known : List Column) (asked : Asked) :
    IsStory (ranking known asked) [] := by
  rw [ranking]
  split
  · exact ⟨List.forall_mem_singleton.mpr fun scored member => score_le_of_mem_rank member,
      List.forall_mem_singleton.mpr rfl, rfl⟩
  · exact ⟨List.forall_mem_nil _, List.forall_mem_nil _, rfl⟩

theorem isStory_analysed {known : List Column} {intent : Intent}
    (analysed : analyze asked known today = .ok intent) :
    IsStory [.analysed intent] ["query.intent"] :=
  .single rfl (isPlain_of_mem_filters analysed)

/-- The parameters of a query that is built from a question are plain. -/
theorem isStory_built {known : List Column} {intent : Intent} {generated : Generated}
    (analysed : analyze asked known today = .ok intent)
    (built : buildWith wellFormed intent.toDraft known = .ok generated) :
    IsStory [.built { sql := generated.sql, parameters := generated.parameters }]
      ["query.sql"] := by
  refine .single rfl fun parameter member => ?_
  change parameter ∈ generated.parameters at member
  rw [parameters_of_buildWith built] at member
  obtain ⟨filter, passed, rfl⟩ := List.mem_map.mp member
  exact isPlain_of_mem_filters analysed filter (List.mem_of_mem_filter passed)

/-- What an attempt logs tells how far it comes. -/
theorem exists_isStory_attempt (wellFormed : List Char → Bool) (executor : Executor)
    (columns : Except Failure (List Column)) (today : Date) (asked : Asked) :
    ∃ trail : Trail,
      trail.ending = Ending.ofResult (attempt wellFormed executor columns today asked).result ∧
      trail.IsOf wellFormed executor columns today asked ∧
      IsStory (proceed wellFormed columns today asked).events trail.progress := by
  rcases stages_cases wellFormed columns today asked with ⟨failure, rfl⟩ |
    ⟨known, error, rfl, unanalysed⟩ | ⟨known, intent, failure, rfl, analysed, unbuilt⟩ |
    ⟨known, intent, generated, rfl, analysed, built⟩
  · refine ⟨⟨false, false, _⟩, rfl, Trail.isOf_of_ending ?_ ?_ rfl, ?_⟩
    · simp [Analyses]
    · simp [not_prepares_of_unread]
    · exact ⟨List.forall_mem_nil _, List.forall_mem_nil _, rfl⟩
  · refine ⟨⟨false, false, _⟩, rfl, Trail.isOf_of_ending ?_ ?_ rfl, ?_⟩
    · simp [Analyses, unanalysed]
    · simp [not_prepares_of_unanalysed unanalysed]
    · rw [proceed_of_unanalysed unanalysed]
      exact isStory_ranking known asked
  · refine ⟨⟨true, false, _⟩, rfl, Trail.isOf_of_ending ?_ ?_ rfl, ?_⟩
    · exact iff_of_true rfl ⟨intent, known, rfl, analysed⟩
    · simp [not_prepares_of_unbuilt analysed unbuilt]
    · rw [proceed_of_unbuilt analysed unbuilt]
      exact (isStory_ranking known asked).append (isStory_analysed analysed)
  · refine ⟨⟨true, true, _⟩, rfl, Trail.isOf_of_ending ?_ ?_ rfl, ?_⟩
    · exact iff_of_true rfl ⟨intent, known, rfl, analysed⟩
    · exact iff_of_true rfl ⟨_, known, intent, generated, rfl, analysed, built, rfl⟩
    · rw [proceed_of_built analysed built]
      exact (isStory_ranking known asked).append
        ((isStory_analysed analysed).append (isStory_built analysed built))

/-! ## Runs -/

/-- A story of a trail's names leaves the trail, with the alarms of its ending behind it. -/
theorem Trail.IsLeftBy.of_story {trail : Trail} {records alarms : List Record}
    (marks : List.Forall₂ Event.IsMark trail.names (records.filter isOnChannel))
    (only : records.filter isByProcessor = records.filter isOnChannel)
    (raised : AreAlarms trail.ending alarms) : trail.IsLeftBy (records ++ alarms) where
  marks := by rwa [List.filter_append, raised.off, List.append_nil]
  alarms := by
    refine ⟨alarms, ?_, raised.alarms⟩
    rw [List.filter_append, List.filter_append, raised.off, raised.byProcessor, only,
      List.append_nil]

/--
A question leaves a trail, unless the readings of the clock are too far apart to be told in
milliseconds or the rows too many to be counted.  The channel has one record for each name of
the trail, in order: that the question was received, that it was analysed if it was, that its
query was built if it was, and last how it ended.  It is done exactly if the outcome has no
error, rejected exactly if a stage stops with a failure about the question, as the execution
always does, and failed exactly if a stage stops with another failure.  Then, and only then,
one alarm follows.
-/
theorem exists_isLeftBy_run (wellFormed : List Char → Bool) (executor : Executor)
    (columns : Except Failure (List Column)) (today : Date) (asked : Asked)
    (started ended : Binary64) (finite : IsFinite ((ended - started) * 1000))
    (counted : ∀ request rows, executor request = .ok rows → rows.length < 10 ^ maxDigits) :
    ∃ outcome records, ∃ trail : Trail,
      (run wellFormed executor columns today asked started ended).outcome = .ok outcome ∧
      (run wellFormed executor columns today asked started ended).events.mapM Event.record =
        .ok records ∧
      trail.IsOf wellFormed executor columns today asked ∧ trail.IsLeftBy records ∧
      (trail.ending = .done ↔ outcome.error = none) ∧
      ∀ request fault, Prepares wellFormed columns today asked request →
        executor request = .error fault → trail.ending = .rejected := by
  obtain ⟨milliseconds, passed, short⟩ := exists_truncate_mul finite
  have elapsed : elapsed started ended = .ok milliseconds := passed
  obtain ⟨trail, ending, isOf, progress⟩ :=
    exists_isStory_attempt wellFormed executor columns today asked
  have rowsCounted : ∀ success, (attempt wellFormed executor columns today asked).result =
      .ok success → digitCount success.rows.length ≤ maxDigits := by
    intro success succeeded
    rcases attempt_ends wellFormed executor columns today asked with
      ⟨other, request, again, executed⟩ | ⟨failure, fails⟩
    · obtain rfl := Except.ok.inj (succeeded.symm.trans again)
      exact digitCount_le_of_lt (counted request _ executed)
    · exact nomatch succeeded.symm.trans fails.attempt_eq
  obtain ⟨event, alarms, alarmRecords, closed, last, alarmed, raised⟩ :=
    exists_closing asked short rowsCounted
  have received : IsStory [.received asked] ["query.receive"] := .single rfl trivial
  obtain ⟨records, recorded, marks, only⟩ := (received.append (progress.append last)).exists_records
  rw [← ending] at marks raised
  refine ⟨outcomeOf milliseconds (attempt wellFormed executor columns today asked).result,
    records ++ alarmRecords, trail, by simp only [run, elapsed], ?_, isOf,
    .of_story marks only raised, ?_, ?_⟩
  · have events : (run wellFormed executor columns today asked started ended).events =
        ([.received asked] ++ ((proceed wellFormed columns today asked).events ++
          [event])) ++ alarms := by
      simp only [run, elapsed, closed, List.append_assoc, List.cons_append, List.nil_append]
    rw [events, mapM_eq_ok_iff]
    exact List.rel_append (mapM_eq_ok_iff.mp recorded) (mapM_eq_ok_iff.mp alarmed)
  · rw [ending, Ending.ofResult_eq_done_iff]
  · intro request fault prepared unexecuted
    exact isOf.rejected.mpr
      ⟨_, .execution prepared unexecuted, isAboutQuery_executionFailure fault⟩

theorem exists_isLeftBy_run_unshaped :
    let executor : Executor := fun _ => .ok [[(.text averageLabel, .text "?")]]
    let trail : Trail := { analysed := true, built := true, ending := .failed }
    IsFinite (((1 : Binary64) - 0) * 1000) ∧
      (∀ request rows, executor request = .ok rows → rows.length < 10 ^ maxDigits) ∧
      ∃ records, (run (fun _ => true) executor (.ok []) ⟨2025, 6, 15, by decide⟩
          countQuestion 0 1).events.mapM Event.record = .ok records ∧
        trail.IsLeftBy records := by
  intro executor trail
  have finite : IsFinite (((1 : Binary64) - 0) * 1000) := by decide +kernel
  have counted : ∀ request rows, executor request = .ok rows →
      rows.length < 10 ^ maxDigits := by
    rintro request rows ⟨⟩
    exact Nat.one_lt_pow (by decide) (by decide)
  have computed : ((analyze countQuestion [] ⟨2025, 6, 15, by decide⟩).map (fun intent =>
      (buildWith (fun _ => true) intent.toDraft []).isOk)) = .ok true := by decide +kernel
  obtain ⟨intent, analysed, succeeds⟩ := map_eq_ok_iff.mp computed
  obtain ⟨generated, built⟩ := exists_eq_ok_of_isOk succeeds
  have prepared : Prepares (fun _ => true) (.ok []) ⟨2025, 6, 15, by decide⟩ countQuestion
      { sql := generated.sql, parameters := generated.parameters } :=
    ⟨[], intent, generated, rfl, analysed, built, rfl⟩
  have unshaped : ofRows [[(.text averageLabel, .text "?")]] =
      .error (.notADecimal "?".toList) := by rfl
  obtain ⟨outcome, records, left, settled, recorded, isOf, isLeftBy, _⟩ :=
    exists_isLeftBy_run (fun _ => true) executor (.ok []) ⟨2025, 6, 15, by decide⟩
      countQuestion 0 1 finite counted
  have isTrail : left = trail := by
    obtain ⟨analysedOf, builtOf, endingOf⟩ := left
    obtain rfl : analysedOf = true := isOf.analysed.mpr ⟨intent, [], rfl, analysed⟩
    obtain rfl : builtOf = true := isOf.built.mpr ⟨_, prepared⟩
    obtain rfl : endingOf = .failed := isOf.failed.mpr ⟨_, .shaping prepared rfl unshaped, rfl⟩
    rfl
  exact ⟨finite, counted, records, recorded, isTrail ▸ isLeftBy⟩

end RideQuery.Answer
