import Mathlib.Data.List.Forall2

/-!
# Steps that can fail

A sequence of steps ends with the first one that fails.  The lemmas here say when such
a sequence succeeds, and carry a relation between two runs from step to step, so that
facts about pairs of runs need not take the sequences apart.
-/

namespace RideQuery

variable {ε ε' δ : Type} {α β γ α' β' : Type}

/-! ## Related lists -/

/-- A member of the second of two related lists is related to a member of the first. -/
theorem exists_of_mem_forall₂ {related : α → β → Prop} {values : List α} {results : List β}
    (lists : List.Forall₂ related values results) :
    ∀ result ∈ results, ∃ value ∈ values, related value result := by
  intro result member
  induction lists with
  | nil => contradiction
  | @cons value first values results head _ inductionHypothesis =>
      rcases List.mem_cons.mp member with rfl | member
      · exact ⟨value, List.mem_cons_self, head⟩
      · obtain ⟨other, inside, holds⟩ := inductionHypothesis member
        exact ⟨other, List.mem_cons_of_mem value inside, holds⟩

/-- A relation between two lists may be weakened for their members. -/
theorem forall₂_of_mem {related weaker : α → β → Prop} {values : List α} {results : List β}
    (lists : List.Forall₂ related values results)
    (weaken : ∀ value ∈ values, ∀ result ∈ results,
      related value result → weaker value result) :
    List.Forall₂ weaker values results := by
  induction lists with
  | nil => exact .nil
  | cons head _ inductionHypothesis =>
      refine .cons (weaken _ List.mem_cons_self _ List.mem_cons_self head) ?_
      apply inductionHypothesis
      intro value inside result resultInside
      exact weaken value (List.mem_cons_of_mem _ inside) result
        (List.mem_cons_of_mem _ resultInside)

/-! ## Successful sequences -/

theorem bind_eq_ok_iff {step : Except ε α} {next : α → Except ε β} {result : β} :
    (step >>= next) = .ok result ↔ ∃ value, step = .ok value ∧ next value = .ok result := by
  cases step <;> simp [bind, Except.bind]

@[simp]
theorem pure_eq_ok_iff {value result : α} :
    (pure value : Except ε α) = .ok result ↔ value = result := by
  simp [pure, Except.pure]

theorem exists_eq_ok_of_isOk {step : Except ε α} (succeeds : step.isOk = true) :
    ∃ value, step = .ok value := by
  cases step with
  | error failure => contradiction
  | ok value => exact ⟨value, rfl⟩

theorem map_eq_ok_iff {step : Except ε α} {image : α → β} {result : β} :
    step.map image = .ok result ↔ ∃ value, step = .ok value ∧ image value = result := by
  cases step <;> simp [Except.map]

/-- What is made of a result of a step does not make the step fail. -/
theorem exists_bind_pure_eq_ok_iff {step : Except ε α} {image : α → β} :
    (∃ result, (step >>= fun value => pure (image value)) = .ok result) ↔
      ∃ value, step = .ok value := by
  simp only [bind_eq_ok_iff, pure_eq_ok_iff]
  constructor
  · rintro ⟨_, value, stepped, _⟩
    exact ⟨value, stepped⟩
  · rintro ⟨value, stepped⟩
    exact ⟨image value, value, stepped, rfl⟩

@[simp]
theorem ok_bind (value : α) (next : α → Except ε β) : (.ok value >>= next) = next value :=
  rfl

@[simp]
theorem error_bind (failure : ε) (next : α → Except ε β) :
    ((.error failure : Except ε α) >>= next) = .error failure :=
  rfl

/-- A traversal succeeds exactly if every step does, with its results in order. -/
theorem mapM_eq_ok_iff {step : α → Except ε β} {values : List α} {results : List β} :
    values.mapM step = .ok results ↔
      List.Forall₂ (fun value result => step value = .ok result) values results := by
  induction values generalizing results with
  | nil =>
      rw [List.mapM_nil, pure_eq_ok_iff, List.forall₂_nil_left_iff]
      exact eq_comm
  | cons value values inductionHypothesis =>
      rw [List.mapM_cons, bind_eq_ok_iff]
      constructor
      · rintro ⟨first, stepped, traversed⟩
        obtain ⟨rest, restTraversed, done⟩ := bind_eq_ok_iff.mp traversed
        rw [pure_eq_ok_iff] at done
        subst done
        exact .cons stepped (inductionHypothesis.mp restTraversed)
      · rintro (_ | ⟨stepped, rest⟩)
        exact ⟨_, stepped, bind_eq_ok_iff.mpr ⟨_, inductionHypothesis.mpr rest, rfl⟩⟩

/-- What a traversal gives comes from one of its steps. -/
theorem exists_of_mem_mapM {step : α → Except ε β} {values : List α} {results : List β}
    (traversed : values.mapM step = .ok results) :
    ∀ result ∈ results, ∃ value ∈ values, step value = .ok result :=
  exists_of_mem_forall₂ (mapM_eq_ok_iff.mp traversed)

/-- A traversal all of whose steps succeed is a map. -/
theorem mapM_eq_ok_map {step : α → Except ε β} {image : α → β} {values : List α}
    (succeeds : ∀ value ∈ values, step value = .ok (image value)) :
    values.mapM step = .ok (values.map image) := by
  rw [mapM_eq_ok_iff, List.forall₂_map_right_iff, List.forall₂_same]
  exact succeeds

/-- A traversal has a result exactly if none of its steps fails. -/
theorem exists_mapM_eq_ok_iff {step : α → Except ε β} {values : List α} :
    (∃ results, values.mapM step = .ok results) ↔
      ∀ value ∈ values, ∃ result, step value = .ok result := by
  constructor
  · rintro ⟨results, traversed⟩ value member
    obtain ⟨result, _, stepped⟩ :=
      exists_of_mem_forall₂ (mapM_eq_ok_iff.mp traversed).flip value member
    exact ⟨result, stepped⟩
  · intro succeeds
    induction values with
    | nil => exact ⟨[], rfl⟩
    | cons value values inductionHypothesis =>
        rw [List.forall_mem_cons] at succeeds
        obtain ⟨result, stepped⟩ := succeeds.1
        obtain ⟨results, traversed⟩ := inductionHypothesis succeeds.2
        rw [List.mapM_cons, stepped, traversed]
        exact ⟨result :: results, rfl⟩

/-- A traversal that fails does so by one of its steps. -/
theorem exists_of_mapM_eq_error {step : α → Except ε β} {values : List α} {failure : ε}
    (failed : values.mapM step = .error failure) :
    ∃ value ∈ values, step value = .error failure := by
  induction values with
  | nil => contradiction
  | cons value values inductionHypothesis =>
      rw [List.mapM_cons] at failed
      cases stepped : step value with
      | error other =>
          rw [stepped, error_bind] at failed
          cases failed
          exact ⟨value, List.mem_cons_self, stepped⟩
      | ok result =>
          rw [stepped, ok_bind] at failed
          cases traversed : values.mapM step with
          | error other =>
              rw [traversed, error_bind] at failed
              obtain ⟨own, member, fails⟩ := inductionHypothesis (traversed.trans failed)
              exact ⟨own, List.mem_cons_of_mem value member, fails⟩
          | ok results =>
              rw [traversed] at failed
              contradiction

/-! ## Runs that fail in one way -/

/-- Runs that have a result, unless something holds, and then fail in one way. -/
def FailsIf (bad : Prop) (failure : ε) (run : Except ε α) : Prop :=
  (¬bad ∧ ∃ result, run = .ok result) ∨ (bad ∧ run = .error failure)

namespace FailsIf

variable {bad worse : Prop} {failure : ε} {run : Except ε α}

theorem exists_ok (fails : FailsIf bad failure run) (good : ¬bad) : ∃ result, run = .ok result := by
  rcases fails with ⟨_, succeeds⟩ | ⟨isBad, _⟩
  · exact succeeds
  · exact absurd isBad good

theorem eq_error (fails : FailsIf bad failure run) (isBad : bad) : run = .error failure := by
  rcases fails with ⟨good, _⟩ | ⟨_, failed⟩
  · exact absurd isBad good
  · exact failed

theorem exists_ok_iff (fails : FailsIf bad failure run) :
    (∃ result, run = .ok result) ↔ ¬bad := by
  refine ⟨?_, fails.exists_ok⟩
  rintro ⟨result, succeeds⟩ isBad
  exact nomatch succeeds.symm.trans (fails.eq_error isBad)

theorem congr (fails : FailsIf bad failure run) (same : worse ↔ bad) :
    FailsIf worse failure run := by
  rwa [FailsIf, same]

theorem ok (never : ¬bad) (result : α) : FailsIf bad failure (.ok result) :=
  .inl ⟨never, result, rfl⟩

/-- A sequence of two steps fails if one of them does. -/
theorem bind {next : α → Except ε β} (fails : FailsIf bad failure run)
    (nexts : ∀ value, run = .ok value → FailsIf worse failure (next value)) :
    FailsIf (bad ∨ worse) failure (run >>= next) := by
  rcases fails with ⟨good, value, rfl⟩ | ⟨isBad, rfl⟩
  · exact (nexts value rfl).congr (or_iff_right good)
  · exact .inr ⟨.inl isBad, rfl⟩

/-- What is made of a result does not make a run fail. -/
theorem andThen {next : α → β} (fails : FailsIf bad failure run) :
    FailsIf bad failure (run >>= fun value => .ok (next value)) :=
  (fails.bind fun value _ => ok not_false (next value)).congr (or_false bad).symm.to_iff

/-- A failure may be told in other words. -/
theorem mapError (fails : FailsIf bad failure run) (wrap : ε → δ) :
    FailsIf bad (wrap failure) (run.mapError wrap) := by
  rcases fails with ⟨good, value, rfl⟩ | ⟨isBad, rfl⟩
  · exact .ok good value
  · exact .inr ⟨isBad, rfl⟩

/-- A traversal fails if one of its steps does. -/
theorem mapM {bad : α → Prop} {step : α → Except ε β} {values : List α}
    (steps : ∀ value ∈ values, FailsIf (bad value) failure (step value)) :
    FailsIf (∃ value ∈ values, bad value) failure (values.mapM step) := by
  cases traversed : values.mapM step with
  | ok results =>
      refine .inl ⟨?_, results, rfl⟩
      rintro ⟨value, member, isBad⟩
      obtain ⟨result, stepped⟩ := exists_mapM_eq_ok_iff.mp ⟨results, traversed⟩ value member
      rw [(steps value member).eq_error isBad] at stepped
      contradiction
  | error other =>
      obtain ⟨value, member, failed⟩ := exists_of_mapM_eq_error traversed
      rcases steps value member with ⟨_, result, stepped⟩ | ⟨isBad, same⟩
      · rw [stepped] at failed
        contradiction
      · obtain rfl := Except.error.inj (failed.symm.trans same)
        exact .inr ⟨⟨value, member, isBad⟩, rfl⟩

end FailsIf

/-! ## Runs that fail with the first of some failures -/

/-- Runs that fail with the first of some failures, and have a result if there are none. -/
inductive FailsFirst : List ε → Except ε α → Prop
  | ok (result : α) : FailsFirst [] (.ok result)
  | error (failure : ε) (later : List ε) : FailsFirst (failure :: later) (.error failure)

namespace FailsFirst

variable {failures later : List ε} {run : Except ε α}

theorem exists_ok_iff (fails : FailsFirst failures run) :
    (∃ result, run = .ok result) ↔ failures = [] := by
  cases fails <;> simp

theorem eq_error_iff (fails : FailsFirst failures run) {failure : ε} :
    run = .error failure ↔ failures.head? = some failure := by
  cases fails <;> simp

/-- A sequence of two steps fails as the first of them does, and then as the second one does. -/
theorem bind {next : α → Except ε β} (fails : FailsFirst failures run)
    (nexts : ∀ value, run = .ok value → FailsFirst later (next value)) :
    FailsFirst (failures ++ later) (run >>= next) := by
  cases fails with
  | ok value => exact nexts value rfl
  | error failure others => exact .error failure _

/-- What is made of a result does not make a run fail. -/
theorem andThen {next : α → β} (fails : FailsFirst failures run) :
    FailsFirst failures (run >>= fun value => .ok (next value)) := by
  have runs := fails.bind fun value _ => FailsFirst.ok (next value)
  rwa [List.append_nil] at runs

/-- A traversal fails as its steps do, one after the other. -/
theorem mapM {failures : α → List ε} {step : α → Except ε β} {values : List α}
    (steps : ∀ value ∈ values, FailsFirst (failures value) (step value)) :
    FailsFirst (values.flatMap failures) (values.mapM step) := by
  induction values with
  | nil => exact .ok []
  | cons value values inductionHypothesis =>
      rw [List.forall_mem_cons] at steps
      rw [List.flatMap_cons, List.mapM_cons]
      exact steps.1.bind fun _ _ => (inductionHypothesis steps.2).andThen

end FailsFirst

/-! ## Two runs -/

/-- Two runs that both fail, or succeed with related results. -/
def Lockstep (related : α → β → Prop) : Except ε α → Except δ β → Prop
  | .ok value, .ok other => related value other
  | .error _, .error _ => True
  | _, _ => False

namespace Lockstep

theorem pure {related : α → β → Prop} {value : α} {other : β} (holds : related value other) :
    Lockstep (ε := ε) (δ := δ) related (Pure.pure value) (Pure.pure other) :=
  holds

theorem refl {related : α → α → Prop} (reflexive : ∀ value, related value value)
    (run : Except ε α) : Lockstep related run run := by
  cases run with
  | error failure => trivial
  | ok value => exact reflexive value

theorem mapError {related : α → β → Prop} {wrap : ε → ε'} {wrap' : δ → ε'}
    {run : Except ε α} {other : Except δ β} (runs : Lockstep related run other) :
    Lockstep related (run.mapError wrap) (other.mapError wrap') := by
  cases run <;> cases other <;> exact runs

/-- Steps that run in lockstep on related values make sequences that do. -/
theorem bind {related : α → α' → Prop} {result : β → β' → Prop}
    {first : Except ε α} {second : Except δ α'}
    {next : α → Except ε β} {next' : α' → Except δ β'}
    (firsts : Lockstep related first second)
    (nexts : ∀ value other, related value other → Lockstep result (next value) (next' other)) :
    Lockstep result (first >>= next) (second >>= next') := by
  cases first with
  | error failure =>
      cases second with
      | error other => trivial
      | ok other => exact firsts.elim
  | ok value =>
      cases second with
      | error other => exact firsts.elim
      | ok other => exact nexts value other firsts

/-- After the same first step, sequences run in lockstep if they do from there on. -/
theorem bindSame {result : β → β' → Prop} (first : Except ε α) {next : α → Except ε β}
    {next' : α → Except ε β'} (nexts : ∀ value, Lockstep result (next value) (next' value)) :
    Lockstep result (first >>= next) (first >>= next') := by
  apply bind (refl Eq.refl first)
  rintro value _ rfl
  exact nexts value

/-- Traversals of related lists run in lockstep if their steps do. -/
theorem mapM {related : α → α' → Prop} {result : β → β' → Prop}
    {step : α → Except ε β} {step' : α' → Except δ β'} {values : List α} {others : List α'}
    (lists : List.Forall₂ related values others)
    (steps : ∀ value other, related value other → Lockstep result (step value) (step' other)) :
    Lockstep (List.Forall₂ result) (values.mapM step) (others.mapM step') := by
  induction lists with
  | nil => exact List.Forall₂.nil
  | cons head _ inductionHypothesis =>
      rw [List.mapM_cons, List.mapM_cons]
      apply bind (steps _ _ head)
      intro first first' firsts
      apply bind inductionHypothesis
      intro rest rest' rests
      exact List.Forall₂.cons firsts rests

/-- Runs in lockstep succeed together, and then with related results. -/
theorem iff {related : α → β → Prop} {run : Except ε α} {other : Except δ β} :
    Lockstep related run other ↔
      ((∃ value, run = .ok value) ↔ ∃ value, other = .ok value) ∧
        ∀ value value', run = .ok value → other = .ok value' → related value value' := by
  cases run <;> cases other <;> simp [Lockstep]

end Lockstep

end RideQuery
