import Mathlib.Data.List.Induction
import RideQuery.Database.Engines
import RideQuery.Proofs.Fallible
import RideQuery.Proofs.Number.Literal

/-!
# Engines over a history of requests

Two requests come to the same key exactly if they agree on the address, on whether
connections are tested before use and, if they are, on when connections are renewed.
An engine that is handed out was therefore opened by the first request so far that agrees
with the current one in this and could open one.  It was asked for with the current options
exactly if that first request had the same others.
-/

namespace RideQuery.Database

open RideQuery.Number

/-! ## Keys -/

/-- What comes behind the last colon of a text is determined by the text. -/
theorem eq_of_append_colon {address other last otherLast : List Char}
    (free : ':' ∉ last) (otherFree : ':' ∉ otherLast)
    (same : address ++ ':' :: last = other ++ ':' :: otherLast) :
    address = other ∧ last = otherLast := by
  rcases List.append_eq_append_iff.mp same with ⟨between, rfl, ends⟩ | ⟨between, rfl, ends⟩
  · cases between with
    | nil => simpa using ends
    | cons c between =>
        have colon : ':' ∈ last := by
          rw [(List.cons.inj ends).2]
          simp
        exact absurd colon free
  · cases between with
    | nil => simpa using ends.symm
    | cons c between =>
        have colon : ':' ∈ otherLast := by
          rw [(List.cons.inj ends).2]
          simp
        exact absurd colon otherFree

namespace EngineOptions

/-- Whether two requests agree on all that a key tells. -/
def SharesEngine (options other : EngineOptions) : Prop :=
  options.address = other.address ∧ options.prePing = other.prePing ∧
    (other.prePing = true → options.recycle = other.recycle)

instance (options other : EngineOptions) : Decidable (SharesEngine options other) :=
  inferInstanceAs (Decidable (_ ∧ _ ∧ _))

/-- Requests that agree on all that a key tells differ only in what it leaves out. -/
theorem SharesEngine.eq_iff {options other : EngineOptions}
    (shares : options.SharesEngine other) :
    options = other ↔ options.recycle = other.recycle ∧ options.echo = other.echo := by
  obtain ⟨address, prePing, _⟩ := shares
  cases options
  cases other
  cases address
  cases prePing
  rw [EngineOptions.mk.injEq]
  simp only [true_and]

theorem colon_not_mem_keyEnd {options : EngineOptions} {last : String}
    (written : options.keyEnd = .ok last) : ':' ∉ last.toList := by
  rw [keyEnd] at written
  split at written
  · intro colon
    exact absurd ((numberText_of_writeInteger written).2 ':' colon) (by decide)
  · cases written
    decide

/-- The mark of untested connections is no number. -/
theorem writeInteger_ne_untestedMark (n : Int) : writeInteger n ≠ .ok untestedMark := by
  intro written
  rw [writeInteger] at written
  split at written
  · rename_i short
    have mark : 'n' ∈ (integerText n).toList := by
      rw [Except.ok.inj written]
      decide
    unfold integerText at mark
    split at mark
    · have digit : 'n' ∈ (Nat.repr n.natAbs).toList := by simpa using mark
      exact absurd (isDigit_of_mem_repr digit) (by decide)
    · exact absurd (isDigit_of_mem_repr mark) (by decide)
  · contradiction

/-- The end of a key tells whether connections are tested and, if so, when they are renewed. -/
theorem keyEnd_eq_iff {options other : EngineOptions} {last : String}
    (written : other.keyEnd = .ok last) :
    options.keyEnd = .ok last ↔
      options.prePing = other.prePing ∧
        (other.prePing = true → options.recycle = other.recycle) := by
  rw [keyEnd] at written ⊢
  cases tested : options.prePing <;> cases otherTested : other.prePing <;>
    simp only [otherTested, if_true, Bool.false_eq_true, if_false] at written ⊢
  · simp [written]
  · constructor
    · intro mark
      cases mark
      exact absurd written (writeInteger_ne_untestedMark _)
    · simp
  · constructor
    · intro number
      cases written
      exact absurd number (writeInteger_ne_untestedMark _)
    · simp
  · constructor
    · intro number
      exact ⟨trivial, fun _ => writeInteger_injective number written⟩
    · rintro ⟨_, same⟩
      rw [same trivial, written]

/-- Requests have the same key exactly if they agree on all that a key tells. -/
theorem key_eq_iff {options other : EngineOptions} {key : String} (named : other.key = .ok key) :
    options.key = .ok key ↔ options.SharesEngine other := by
  simp only [EngineOptions.key, bind_eq_ok_iff, pure_eq_ok_iff] at named ⊢
  obtain ⟨last, written, rfl⟩ := named
  constructor
  · rintro ⟨otherLast, otherWritten, same⟩
    have parts : (options.address.toList ++ [':']) ++ ':' :: otherLast.toList =
        (other.address.toList ++ [':']) ++ ':' :: last.toList := by
      have texts := congrArg String.toList same
      simpa [keySeparator] using texts
    obtain ⟨address, ends⟩ :=
      eq_of_append_colon (colon_not_mem_keyEnd otherWritten) (colon_not_mem_keyEnd written) parts
    rw [String.toList_inj.mp ends] at otherWritten
    exact ⟨String.toList_inj.mp (List.append_cancel_right address),
      (keyEnd_eq_iff written).mp otherWritten⟩
  · rintro ⟨address, tested⟩
    exact ⟨last, (keyEnd_eq_iff written).mpr tested, by rw [address]⟩

end EngineOptions

/-! ## One request -/

/-- A request finds the engine of its key, opens one, or is refused and changes nothing. -/
theorem Kept.request_cases {Engine : Type} (kept : Kept Engine) (options : EngineOptions)
    (opening : Except Failure Engine) :
    (∃ key engine, options.address.isEmpty = false ∧ options.key = .ok key ∧
      kept.lookup key = some engine ∧ kept.request options opening = (.ok engine, kept)) ∨
    (∃ key engine, options.address.isEmpty = false ∧ options.key = .ok key ∧
      kept.lookup key = none ∧ opening = .ok engine ∧
      kept.request options opening = (.ok engine, kept ++ [(key, engine)])) ∨
    (∃ failure, (options.address.isEmpty = false → ∀ key, options.key = .ok key →
        kept.lookup key = none ∧ ∀ engine, opening ≠ .ok engine) ∧
      kept.request options opening = (.error failure, kept)) := by
  rw [request]
  cases missing : options.address.isEmpty with
  | true => exact .inr (.inr ⟨missingAddress, by simp, rfl⟩)
  | false =>
      rw [if_neg Bool.false_ne_true]
      cases named : options.key with
      | error failure => exact .inr (.inr ⟨.number failure, by simp, rfl⟩)
      | ok key =>
          cases found : kept.lookup key with
          | some engine => exact .inl ⟨key, engine, rfl, rfl, found, by simp only [found]⟩
          | none =>
              cases opened : opening with
              | error failure =>
                  refine .inr (.inr ⟨failure, ?_, by simp only [found]⟩)
                  rintro _ _ ⟨⟩
                  exact ⟨found, by simp⟩
              | ok engine =>
                  exact .inr (.inl ⟨key, engine, rfl, rfl, found, rfl, by simp only [found]⟩)

/-! ## A history of requests -/

namespace History

variable {Engine : Type}

theorem ofCalls_append (calls : List (EngineCall Engine)) (call : EngineCall Engine) :
    ofCalls (calls ++ [call]) = (ofCalls calls).step call := by
  simp [ofCalls]

/-- The engine that a call would open under a key. -/
def openedUnder (key : String) (call : EngineCall Engine) : Option Engine :=
  if call.options.address.isEmpty = false ∧ call.options.key = .ok key then call.opening.toOption
  else none

theorem openedUnder_eq_some_iff {key : String} {call : EngineCall Engine} {engine : Engine} :
    openedUnder key call = some engine ↔
      call.options.address.isEmpty = false ∧ call.options.key = .ok key ∧
        call.opening = .ok engine := by
  rw [openedUnder]
  cases call.opening <;> simp [Except.toOption, and_assoc]

/-- A call keeps every engine, and adds its own if its key has none. -/
theorem lookup_step (history : History Engine) (call : EngineCall Engine) (key : String) :
    (history.step call).kept.lookup key = (history.kept.lookup key).or (openedUnder key call) := by
  rw [step]
  rcases Kept.request_cases history.kept call.options call.opening with
    ⟨own, engine, present, named, found, step⟩ |
      ⟨own, engine, present, named, free, opened, step⟩ | ⟨failure, closed, step⟩
  · rw [step]
    by_cases same : own = key
    · subst same
      simp [found]
    · simp [openedUnder, named, same]
  · rw [step, List.lookup_append]
    by_cases same : own = key
    · subst same
      have own := openedUnder_eq_some_iff.mpr ⟨present, named, opened⟩
      simp [free, own]
    · have other : (key == own) = false := by simpa using Ne.symm same
      simp [List.lookup_cons, other, openedUnder, named, same]
  · rw [step]
    by_cases none : openedUnder key call = none
    · rw [none, Option.or_none]
    · obtain ⟨engine, own⟩ := Option.ne_none_iff_exists'.mp none
      obtain ⟨present, named, opened⟩ := openedUnder_eq_some_iff.mp own
      exact absurd opened ((closed present key named).2 engine)

/-- A key has the engine of the first call that could open one under it. -/
theorem lookup_ofCalls (calls : List (EngineCall Engine)) (key : String) :
    (ofCalls calls).kept.lookup key = calls.findSome? (openedUnder key) := by
  -- The induction is on the history, whose last call comes to the engines kept so far.
  induction calls using List.reverseRecOn with
  | nil => rfl
  | append_singleton calls call inductionHypothesis =>
      rw [ofCalls_append, lookup_step, inductionHypothesis, List.findSome?_append,
        List.findSome?_singleton]

/-- A call that succeeds is answered with the engine that its key has from then on. -/
theorem exists_lookup_of_request {history : History Engine} {call : EngineCall Engine}
    {engine : Engine} (answered : (history.kept.request call.options call.opening).1 = .ok engine) :
    ∃ key, call.options.key = .ok key ∧ (history.step call).kept.lookup key = some engine := by
  rw [step]
  rcases Kept.request_cases history.kept call.options call.opening with
    ⟨key, found, _, named, kept, step⟩ | ⟨key, opened, _, named, free, _, step⟩ | ⟨failure, _, step⟩
  · rw [step] at answered ⊢
    exact ⟨key, named, Except.ok.inj answered ▸ kept⟩
  · rw [step] at answered ⊢
    refine ⟨key, named, ?_⟩
    rw [List.lookup_append, free, ← Except.ok.inj answered]
    simp
  · rw [step] at answered
    contradiction

/--
Calls of which one has opened an engine for another: of those that agree with it in all that a
key tells, it is the first for which an engine could be opened.
-/
structure IsOpenerOf (calls : List (EngineCall Engine)) (options : EngineOptions)
    (opener : EngineCall Engine) : Prop where
  shares : opener.options.SharesEngine options
  first : ∃ before after, calls = before ++ opener :: after ∧ ∀ other ∈ before,
    other.options.SharesEngine options → ∀ engine, other.opening ≠ .ok engine

/--
An engine that is handed out was opened by the first call so far that agrees with the current one
in all that a key tells and could open one.  The address, the testing and, with testing, the
renewal that it was opened with are thus the requested ones.  It was opened with all of the
requested options exactly if that first call asked for the same renewal and the same echo.
-/
theorem exists_opener_of_request {earlier : List (EngineCall Engine)} {call : EngineCall Engine}
    {engine : Engine}
    (answered : ((ofCalls earlier).kept.request call.options call.opening).1 = .ok engine) :
    ∃ opener, IsOpenerOf (earlier ++ [call]) call.options opener ∧ opener.opening = .ok engine ∧
      (opener.options = call.options ↔
        opener.options.recycle = call.options.recycle ∧
          opener.options.echo = call.options.echo) := by
  obtain ⟨key, named, kept⟩ := exists_lookup_of_request answered
  rw [← ofCalls_append, lookup_ofCalls] at kept
  obtain ⟨before, opener, after, whole, own, none⟩ := List.findSome?_eq_some_iff.mp kept
  obtain ⟨present, same, opened⟩ := openedUnder_eq_some_iff.mp own
  have shares := (EngineOptions.key_eq_iff named).mp same
  refine ⟨opener, ⟨shares, before, after, whole, ?_⟩, opened, shares.eq_iff⟩
  intro other inside agrees otherEngine opens
  have otherPresent : other.options.address.isEmpty = false := by
    rw [agrees.1, ← shares.1, present]
  have found := openedUnder_eq_some_iff.mpr
    ⟨otherPresent, (EngineOptions.key_eq_iff named).mpr agrees, opens⟩
  rw [none other inside] at found
  contradiction

/-- The second of two calls without tests gets the engine that the first one opened. -/
theorem exists_opener_of_request_untested :
    let untested : EngineCall ℕ :=
      { options := { address := "sqlite://", prePing := false, recycle := 60 }, opening := .ok 1 }
    let earlier : List (EngineCall ℕ) :=
      [{ options := { address := "sqlite://" }, opening := .ok 0 },
        { options := { address := "sqlite://", prePing := false, echo := true }
          opening := .error (.badValue "locked") },
        untested, { options := { address := "sqlite://::np", prePing := false }, opening := .ok 2 }]
    let call : EngineCall ℕ :=
      { options := { address := "sqlite://", prePing := false, recycle := 5 }, opening := .ok 3 }
    ((ofCalls earlier).kept.request call.options call.opening).1 = .ok 1 ∧
      ∃ opener, IsOpenerOf (earlier ++ [call]) call.options opener ∧ opener.opening = .ok 1 ∧
        opener.options ≠ call.options := by
  intro untested earlier call
  have answered : ((ofCalls earlier).kept.request call.options call.opening).1 = .ok 1 := by
    decide +kernel
  obtain ⟨opener, isOpener, opened, _⟩ := exists_opener_of_request answered
  obtain ⟨before, after, whole, _⟩ := isOpener.first
  have member : opener ∈ earlier ++ [call] := by simp [whole]
  have others : ∀ other ∈ earlier ++ [call], other.opening = .ok 1 →
      other.options ≠ call.options := by decide
  exact ⟨answered, opener, isOpener, opened, others opener member opened⟩

/-- A second call for echo gets the engine that was opened without it. -/
theorem request_eq_of_echo :
    let silent : EngineCall ℕ := { options := { address := "sqlite://" }, opening := .ok 0 }
    let echoing : EngineCall ℕ :=
      { options := { address := "sqlite://", echo := true }, opening := .ok 1 }
    ((ofCalls [silent]).kept.request echoing.options echoing.opening).1 = silent.opening ∧
      silent.opening ≠ echoing.opening ∧ silent.options ≠ echoing.options := by
  intro silent echoing
  have answered : ((ofCalls [silent]).kept.request echoing.options echoing.opening).1 = .ok 0 := by
    decide +kernel
  exact ⟨answered, by decide, by decide⟩

end History

end RideQuery.Database
