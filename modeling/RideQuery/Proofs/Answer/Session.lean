import RideQuery.Answer.Session
import RideQuery.Proofs.Answer.Outcome
import RideQuery.Proofs.Schema.Snapshot

/-!
# Sessions around one catalog

Whatever happens around a catalog, it stays a snapshot of the latest load that succeeded, so
every look at it in a session is made from the columns of that one load.  A load that fails
is reported and leaves nothing behind but the time that it took.
-/

namespace RideQuery.Answer

open RideQuery.Schema

variable {τ : Type} {wellFormed : List Char → Bool}

/-! ## Reports of faults -/

/-- How a step reports a fault: it is raised, or it is the error of an outcome. -/
inductive Reports (fault : Fault) : Step τ → Except Fault Shown → Prop
  | raised {step : Step τ} (direct : ∀ question, step ≠ .ask question) :
      Reports fault step (.error fault)
  | answered (question : Ask) {run : Run} (unexecuted : run.executed = [])
      (outcome : IsFinite ((question.ended - question.started) * 1000) →
        ∃ outcome, run.outcome = .ok outcome ∧ IsError fault.text outcome) :
      Reports fault (.ask question) (.ok (.run run))

theorem reports_run (fault : Fault) (question : Ask) :
    Reports (τ := τ) fault (.ask question)
      (.ok (.run (run wellFormed question.executor (.error (.fault fault)) question.today
        question.asked question.started question.ended))) := by
  refine .answered question (executed_run question.started question.ended) ?_
  intro finite
  obtain ⟨milliseconds, settled⟩ := run_of_isFinite finite wellFormed question.executor
    (.error (.fault fault)) question.today question.asked
  exact ⟨_, settled, isError_failureOutcome (.fault fault) milliseconds⟩

variable [Add τ] [Sub τ] [LT τ] [DecidableLT τ]

/-! ## Sequences of steps -/

/-- The catalog after some steps. -/
def catalogAfter (wellFormed : List Char → Bool) (steps : List (Step τ))
    (catalog : Catalog τ) : Catalog τ :=
  ((performAll wellFormed steps catalog).getLast?.map Prod.snd).getD catalog

/-- What some steps show one after the other. -/
def answers (wellFormed : List Char → Bool) (steps : List (Step τ)) (catalog : Catalog τ) :
    List (Except Fault Shown) :=
  (performAll wellFormed steps catalog).map Prod.fst

variable {catalog : Catalog τ}

theorem performAll_cons (step : Step τ) (steps : List (Step τ)) (catalog : Catalog τ) :
    performAll wellFormed (step :: steps) catalog =
      step.perform wellFormed catalog ::
        performAll wellFormed steps (step.perform wellFormed catalog).2 :=
  rfl

theorem catalogAfter_cons (step : Step τ) (steps : List (Step τ)) (catalog : Catalog τ) :
    catalogAfter wellFormed (step :: steps) catalog =
      catalogAfter wellFormed steps (step.perform wellFormed catalog).2 := by
  rw [catalogAfter, performAll_cons, List.getLast?_cons, catalogAfter]
  cases (performAll wellFormed steps (step.perform wellFormed catalog).2).getLast? <;> rfl

theorem answers_cons (step : Step τ) (steps : List (Step τ)) (catalog : Catalog τ) :
    answers wellFormed (step :: steps) catalog =
      (step.perform wellFormed catalog).1 ::
        answers wellFormed steps (step.perform wellFormed catalog).2 :=
  rfl

/-! ## Looks -/

/-- The getters, each with what it shows of the tables. -/
inductive IsGetter : Step τ → (Tables → Shown) → Prop
  | tables : IsGetter .tables .tables
  | tableNames : IsGetter .tableNames fun tables => .names tables.names
  | columnsOf (table : String) :
      IsGetter (.columnsOf table) fun tables => .columns (tables.columnsOf table)
  | allColumns : IsGetter .allColumns fun tables => .columns tables.columns

theorem showing_look {α : Type} (shown : α → Shown) (view : Tables → α)
    (catalog : Catalog τ) :
    showing shown (catalog.look view) = catalog.look fun tables => shown (view tables) := by
  rw [showing, Catalog.look_eq, Catalog.look_eq]
  cases catalog.tables.1 <;> rfl

theorem IsGetter.perform_eq {getter : Step τ} {shown : Tables → Shown}
    (isGetter : IsGetter getter shown) (catalog : Catalog τ) :
    getter.perform wellFormed catalog = catalog.look shown := by
  cases isGetter with
  | tables => rfl
  | tableNames => exact showing_look Shown.names Tables.names catalog
  | columnsOf table => exact showing_look Shown.columns (Tables.columnsOf · table) catalog
  | allColumns => exact showing_look Shown.columns Tables.columns catalog

theorem perform_ask (question : Ask) (catalog : Catalog τ) :
    (Step.ask question).perform wellFormed catalog =
      (.ok (.run (run wellFormed question.executor
          (catalog.allColumns.1.mapError Failure.fault) question.today question.asked
          question.started question.ended)),
        catalog.allColumns.2) :=
  rfl

/-! ## Snapshots -/

section Snapshots

variable {lifetime : τ}

theorem isSnapshot_lookThrough (table : String) (snapshot : catalog.IsSnapshot lifetime) :
    (lookThrough table catalog).2.IsSnapshot lifetime := by
  unfold lookThrough Catalog.tableNames Catalog.columnsOf
  have first := snapshot.tables
  simp only [Catalog.look_eq]
  cases names : catalog.tables with
  | mk result next =>
      rw [names] at first
      cases result with
      | error fault => exact first
      | ok tables =>
          have second := first.tables
          dsimp only [Except.map]
          cases columns : next.tables with
          | mk result next =>
              rw [columns] at second
              cases result with
              | error fault => exact second
              | ok tables => exact second.tables

/-- A catalog stays a snapshot in every step. -/
theorem isSnapshot_perform (step : Step τ) (snapshot : catalog.IsSnapshot lifetime) :
    (step.perform wellFormed catalog).2.IsSnapshot lifetime := by
  cases step with
  | tick duration => exact snapshot
  | change columns => exact snapshot
  | breakdown fault => exact snapshot
  | pace cost => exact snapshot
  | refresh => exact snapshot.refresh
  | tables => exact snapshot.tables
  | tableNames => exact snapshot.tables
  | columnsOf table => exact snapshot.tables
  | allColumns => exact snapshot.tables
  | browse table => exact isSnapshot_lookThrough table snapshot
  | ask question => exact snapshot.tables

theorem isSnapshot_catalogAfter (steps : List (Step τ))
    (snapshot : catalog.IsSnapshot lifetime) :
    (catalogAfter wellFormed steps catalog).IsSnapshot lifetime := by
  induction steps generalizing catalog with
  | nil => exact snapshot
  | cons step steps inductionHypothesis =>
      rw [catalogAfter_cons]
      exact inductionHypothesis (isSnapshot_perform step snapshot)

/--
At any time in a session, each getter is a faithful look at the catalog: it loads the columns
once if they are due and not at all otherwise, and what it shows is made from the columns of
the latest load that succeeded.  A question looks at all columns in the same way, and is
answered from what that look gives.
-/
theorem isFaithfulLook_of_session (wellFormed : List Char → Bool) (lifetime : τ)
    (source : Source τ) (earlier : List (Step τ)) :
    let catalog := catalogAfter wellFormed earlier (.new lifetime source)
    (∀ getter shown, IsGetter getter shown →
      catalog.IsFaithfulLook lifetime shown (getter.perform wellFormed catalog)) ∧
    ∀ question : Ask, ∃ columns after,
      catalog.IsFaithfulLook lifetime Tables.columns (columns, after) ∧
        (Step.ask question).perform wellFormed catalog =
          (.ok (.run (run wellFormed question.executor (columns.mapError Failure.fault)
            question.today question.asked question.started question.ended)), after) := by
  intro catalog
  have snapshot : catalog.IsSnapshot lifetime :=
    isSnapshot_catalogAfter earlier (Catalog.isSnapshot_new lifetime source)
  constructor
  · intro getter shown isGetter
    rw [isGetter.perform_eq]
    exact snapshot.isFaithfulLook shown
  · intro question
    exact ⟨_, _, snapshot.isFaithfulLook Tables.columns, perform_ask question catalog⟩

end Snapshots

/-- A source of four columns whose loads take ten units of time. -/
def slowSource : Source Int :=
  { clock := 0, columns := Query.sampleColumns, fault := none, cost := 10, loads := 0 }

/-- A session that ends as long after the beginning of its load as columns are kept. -/
def agedSession : List (Step Int) :=
  [.allColumns, .change [], .tick 290]

/-- Columns are kept up to the very end of their lifetime, which a load begins. -/
theorem isFaithfulLook_of_session_aged :
    let aged := catalogAfter (fun _ => true) agedSession (.new 300 slowSource)
    let expired := catalogAfter (fun _ => true) (agedSession ++ [.tick 1]) (.new 300 slowSource)
    (Step.tableNames.perform (fun _ => true) aged).2 = aged ∧
      (Step.tableNames.perform (fun _ => true) expired).2.source.loads = 2 := by
  intro aged expired
  have kept : ¬aged.source.IsDue 300 := by
    rintro (none | @⟨load, latest, old⟩)
    · exact absurd none (List.cons_ne_nil _ _)
    · obtain rfl : { began := 0, columns := Query.sampleColumns } = load :=
        Option.some.inj latest
      exact absurd old (by decide)
  have due : expired.source.IsDue 300 :=
    @Source.IsDue.expired _ _ _ _ _ { began := 0, columns := Query.sampleColumns } rfl (by decide)
  obtain ⟨getters, _⟩ :=
    isFaithfulLook_of_session (fun _ => true) 300 slowSource agedSession
  obtain ⟨gettersLater, _⟩ :=
    isFaithfulLook_of_session (fun _ => true) 300 slowSource (agedSession ++ [.tick 1])
  exact ⟨(getters _ _ .tableNames).kept kept, ((gettersLater _ _ .tableNames).due due).2⟩

/-! ## Failed loads -/

theorem exists_lookThrough_recounted (table : String) (count : Nat) (catalog : Catalog τ) :
    ∃ after, lookThrough table (catalog.recounted count) =
      ((lookThrough table catalog).1, (lookThrough table catalog).2.recounted after) := by
  unfold lookThrough Catalog.tableNames Catalog.columnsOf Catalog.allColumns
  obtain ⟨first, names⟩ := Catalog.exists_look_recounted Tables.names count catalog
  rw [names]
  cases catalog.look Tables.names with
  | mk result next =>
      cases result with
      | error fault => exact ⟨first, rfl⟩
      | ok tables =>
          obtain ⟨second, columns⟩ :=
            Catalog.exists_look_recounted (Tables.columnsOf · table) first next
          dsimp only
          rw [columns]
          cases next.look (Tables.columnsOf · table) with
          | mk result next =>
              cases result with
              | error fault => exact ⟨second, rfl⟩
              | ok tables =>
                  obtain ⟨third, all⟩ :=
                    Catalog.exists_look_recounted Tables.columns second next
                  dsimp only
                  rw [all]
                  exact ⟨third, rfl⟩

/-- What a step shows does not depend on how often columns were loaded. -/
theorem exists_perform_recounted (wellFormed : List Char → Bool) (step : Step τ) (count : Nat)
    (catalog : Catalog τ) :
    ∃ after, step.perform wellFormed (catalog.recounted count) =
      ((step.perform wellFormed catalog).1,
        (step.perform wellFormed catalog).2.recounted after) := by
  have look : ∀ shown : Tables → Shown, IsGetter step shown →
      ∃ after, step.perform wellFormed (catalog.recounted count) =
        ((step.perform wellFormed catalog).1,
          (step.perform wellFormed catalog).2.recounted after) := by
    intro shown isGetter
    rw [isGetter.perform_eq, isGetter.perform_eq]
    exact Catalog.exists_look_recounted shown count catalog
  cases step with
  | tick duration => exact ⟨count, rfl⟩
  | change columns => exact ⟨count, rfl⟩
  | breakdown fault => exact ⟨count, rfl⟩
  | pace cost => exact ⟨count, rfl⟩
  | refresh =>
      refine ⟨count + 1, ?_⟩
      simp only [Step.perform, showing, Catalog.refresh_recounted]
  | tables => exact look _ .tables
  | tableNames => exact look _ .tableNames
  | columnsOf table => exact look _ (.columnsOf table)
  | allColumns => exact look _ .allColumns
  | browse table =>
      obtain ⟨after, same⟩ := exists_lookThrough_recounted table count catalog
      refine ⟨after, ?_⟩
      simp only [Step.perform, showing, same]
  | ask question =>
      obtain ⟨after, same⟩ := Catalog.exists_look_recounted Tables.columns count catalog
      refine ⟨after, ?_⟩
      simp only [perform_ask, Catalog.allColumns, same]

/-- What a session shows does not depend on how often columns were loaded before. -/
theorem answers_recounted (steps : List (Step τ)) (count : Nat) (catalog : Catalog τ) :
    answers wellFormed steps (catalog.recounted count) = answers wellFormed steps catalog := by
  induction steps generalizing count catalog with
  | nil => rfl
  | cons step steps inductionHypothesis =>
      obtain ⟨after, same⟩ := exists_perform_recounted wellFormed step count catalog
      rw [answers_cons, answers_cons, same, inductionHypothesis]

/-- While loads fail, looking through the lists fails by one load or changes nothing. -/
theorem lookThrough_of_raises {fault : Fault} (table : String)
    (raises : catalog.source.fault = some fault) :
    lookThrough table catalog = (.error fault, catalog.afterFailure) ∨
      (lookThrough table catalog).2 = catalog := by
  unfold lookThrough Catalog.tableNames Catalog.columnsOf Catalog.allColumns
  rcases Catalog.look_of_raises Tables.names raises with names | names
  · left
    rw [names]
  · rw [names]
    dsimp only
    rcases Catalog.look_of_raises (Tables.columnsOf · table) raises with columns | columns
    · left
      rw [columns]
    · rw [columns]
      dsimp only
      rcases Catalog.look_of_raises Tables.columns raises with all | all
      · left
        rw [all]
        rfl
      · right
        rw [all]

/-- While loads fail, a step reports the fault after one load or loads nothing. -/
theorem perform_of_raises (wellFormed : List Char → Bool) {fault : Fault} (step : Step τ)
    (raises : catalog.source.fault = some fault) :
    ((step.perform wellFormed catalog).2 = catalog.afterFailure ∧
        Reports fault step (step.perform wellFormed catalog).1) ∨
      (step.perform wellFormed catalog).2.source.loads = catalog.source.loads := by
  have look : ∀ shown : Tables → Shown, IsGetter step shown →
      (∀ question, step ≠ .ask question) →
      ((step.perform wellFormed catalog).2 = catalog.afterFailure ∧
          Reports fault step (step.perform wellFormed catalog).1) ∨
        (step.perform wellFormed catalog).2.source.loads = catalog.source.loads := by
    intro shown isGetter direct
    rw [isGetter.perform_eq]
    rcases Catalog.look_of_raises shown raises with failed | kept
    · rw [failed]
      exact .inl ⟨rfl, .raised direct⟩
    · rw [kept]
      exact .inr rfl
  cases step with
  | tick duration => exact .inr rfl
  | change columns => exact .inr rfl
  | breakdown fault => exact .inr rfl
  | pace cost => exact .inr rfl
  | refresh =>
      have failed : Step.refresh.perform wellFormed catalog =
          (.error fault, catalog.afterFailure) := by
        simp only [Step.perform, showing, Catalog.refresh_of_raises raises]
        rfl
      rw [failed]
      exact .inl ⟨rfl, .raised nofun⟩
  | tables => exact look _ .tables nofun
  | tableNames => exact look _ .tableNames nofun
  | columnsOf table => exact look _ (.columnsOf table) nofun
  | allColumns => exact look _ .allColumns nofun
  | browse table =>
      simp only [Step.perform, showing]
      rcases lookThrough_of_raises table raises with failed | kept
      · rw [failed]
        exact .inl ⟨rfl, .raised nofun⟩
      · rw [kept]
        exact .inr rfl
  | ask question =>
      simp only [perform_ask, Catalog.allColumns]
      rcases Catalog.look_of_raises Tables.columns raises with failed | kept
      · rw [failed]
        exact .inl ⟨rfl, reports_run fault question⟩
      · rw [kept]
        exact .inr rfl

/--
What is asked of a step in which a load fails: what is kept stays as it is, the fault is
reported, and everything after it shows what it would have shown without that load at the
same time.
-/
structure LeavesNoTrace (wellFormed : List Char → Bool) (fault : Fault) (step : Step τ)
    (catalog : Catalog τ) : Prop where
  cache : (step.perform wellFormed catalog).2.cache = catalog.cache
  reported : Reports fault step (step.perform wellFormed catalog).1
  later : ∀ steps, answers wellFormed steps (step.perform wellFormed catalog).2 =
    answers wellFormed steps
      { catalog with source.clock := (step.perform wellFormed catalog).2.source.clock }

/-- A load that fails leaves no trace, in whatever state and step it is attempted. -/
theorem leavesNoTrace_of_fault (wellFormed : List Char → Bool) {fault : Fault}
    {step : Step τ} {catalog : Catalog τ} (raises : catalog.source.fault = some fault)
    (loads : (step.perform wellFormed catalog).2.source.loads ≠ catalog.source.loads) :
    LeavesNoTrace wellFormed fault step catalog := by
  rcases perform_of_raises wellFormed step raises with ⟨after, reported⟩ | kept
  · refine ⟨by rw [after]; rfl, reported, ?_⟩
    intro steps
    rw [after, Catalog.afterFailure_eq, answers_recounted]
    rfl
  · exact absurd kept loads

/-- A question about trips that nothing is executed for. -/
def unservedAsk : Ask :=
  { asked := countQuestion
    today := ⟨2025, 6, 15, by decide⟩
    executor := fun _ => .ok []
    started := 0
    ended := 1 }

/-- A fault of the network. -/
def lostConnection : Fault :=
  { kind := .timeout, message := some "connection lost" }

/-- A session whose columns are too old when their source cannot be reached. -/
def cutOffSession : List (Step Int) :=
  [.allColumns, .breakdown (some lostConnection), .tick 400]

theorem leavesNoTrace_of_fault_cutOff :
    let catalog := catalogAfter (fun _ => true) cutOffSession (.new 300 slowSource)
    catalog.source.fault = some lostConnection ∧
      ((Step.ask unservedAsk).perform (fun _ => true) catalog).2.source.loads ≠
        catalog.source.loads ∧
      LeavesNoTrace (fun _ => true) lostConnection (.ask unservedAsk) catalog := by
  intro catalog
  have loads : ((Step.ask unservedAsk).perform (fun _ => true) catalog).2.source.loads ≠
      catalog.source.loads := by decide
  exact ⟨rfl, loads, leavesNoTrace_of_fault (fun _ => true) rfl loads⟩

end RideQuery.Answer
