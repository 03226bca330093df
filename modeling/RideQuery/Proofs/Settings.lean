import Mathlib.Data.List.Induction
import RideQuery.Proofs.Json.Reading
import RideQuery.Proofs.Value.Levels
import RideQuery.Settings

/-!
# Views of settings

Settings are texts of an environment, with texts on top that were made one after the other; to
make none lets the environment through again.  The view as a truth value or an integer does not fail
for any text and falls back to the default, and so does the view as JSON, except for the texts
that exceed a limit of the reader.
-/

namespace RideQuery.Settings

open RideQuery.Text RideQuery.Number RideQuery.Json

/-! ## Settings made one after the other -/

/-- Settings over an environment, after some were made in order. -/
def after (environment : List (String × String)) (made : List (String × Option String)) :
    Settings :=
  made.foldl (fun settings setting => settings.set setting.1 (.ofOption setting.2))
    { explicit := [], environment }

/-- The text under a key: the one that was made last, or else that of the environment. -/
def effective? (environment : List (String × String)) (made : List (String × Option String))
    (key : String) : Option String :=
  (made.reverse.lookup key).join.or (environment.lookup key)

variable (environment : List (String × String)) (made : List (String × Option String))

theorem after_eq :
    after environment made =
      { explicit := made.reverse.map fun setting => (setting.1, .ofOption setting.2)
        environment } := by
  induction made using List.reverseRecOn with
  | nil => rfl
  | append_singleton made setting inductionHypothesis =>
      rw [after] at inductionHypothesis ⊢
      rw [List.foldl_append, inductionHypothesis, List.reverse_append]
      rfl

theorem lookup_map_ofOption (settings : List (String × Option String)) (key : String) :
    (settings.map fun setting => (setting.1, Value.ofOption setting.2)).lookup key =
      (settings.lookup key).map Value.ofOption := by
  induction settings with
  | nil => rfl
  | cons setting settings inductionHypothesis =>
      rw [List.map_cons, List.lookup_cons, List.lookup_cons, inductionHypothesis]
      cases key == setting.1 <;> rfl

/-- A setting is found exactly if a text is effective under its key. -/
theorem find?_after (key : String) :
    (after environment made).find? key = (effective? environment made key).map Value.text := by
  rw [find?, explicit?, environment?, after_eq, lookup_map_ofOption, effective?]
  rcases made.reverse.lookup key with _ | _ | text
  · rfl
  · rfl
  · rfl

/-! ## Views of a text -/

/-- What the view as a truth value may give. -/
inductive IsTruthView (default : Value) : Option String → Value → Prop
  | truth {text? : Option String} (b : Bool) : IsTruthView default text? (.bool b)
  | absent : IsTruthView default none default

/-- What the view as an integer may give. -/
inductive IsIntegerView (room : Room) (default : Value) :
    Option String → Except Failure Value → Prop
  | integer {text : String} {n : Int} (stands : IsInteger text.toList n) :
      IsIntegerView room default (some text) (.ok (.int n))
  | other {text : String} (other : ∀ n, ¬IsInteger text.toList n) :
      IsIntegerView room default (some text) (.ok default)
  | absent {view : Value} (own : view = default ∨ ∃ n, view = .int n) :
      IsIntegerView room default none (.ok view)
  /-- A default that is no integer is displayed, which takes room for all of its levels. -/
  | deep {activity : Activity} (present : default ≠ .null) (foreign : ∀ n, default ≠ .int n)
      (deep : room.showing ≤ default.levels) :
      IsIntegerView room default none (.error (.tooDeep activity))

/-- What the view as JSON may give. -/
inductive IsJsonView (room : Room) (default : Value) :
    Option String → Except Failure Loaded → Prop
  | document {text : String} {document : Document}
      (isDocument : IsDocument room.reading text.toList)
      (read : readWithin room.reading text.toList = .ok document) :
      IsJsonView room default (some text) (.ok (.document document))
  | malformed {text : String} (malformed : ¬IsDocument room.reading text.toList)
      (within : ∀ error, ¬ExceedsDocument error room.reading text.toList) :
      IsJsonView room default (some text) (.ok (.given default))
  | exceeds {text : String} {error : ReadError}
      (exceeds : ExceedsDocument error room.reading text.toList) :
      IsJsonView room default (some text) (.error (.read error))
  | absent : IsJsonView room default none (.ok (.given default))

theorem isTruthView_getTruth (key : String) (default : Value) :
    IsTruthView default (effective? environment made key)
      ((after environment made).getTruth key default) := by
  rw [getTruth, get, find?_after]
  cases effective? environment made key with
  | none =>
      change IsTruthView default none (truthOf default default)
      cases default with
      | null => exact .absent
      | _ => exact .truth _
  | some text => exact .truth _

theorem plainWithin_of_readDisplayed {room : Room} {value : Value} {activity : Activity}
    (failed : readDisplayed room value = .error (.tooDeep activity)) :
    value.plainWithin room.showing = .error (.tooDeep activity) := by
  rw [readDisplayed] at failed
  cases shown : value.plainWithin room.showing with
  | error failure =>
      rw [shown, error_bind] at failed
      rw [Except.error.inj failed]
  | ok text =>
      rw [shown, ok_bind] at failed
      cases read : readInteger (trim text.toList) with
      | ok n =>
          rw [read] at failed
          contradiction
      | error error =>
          rw [read] at failed
          exact nomatch Except.error.inj failed

/-- A view of a value as an integer fails only by displaying it. -/
theorem integerOf_cases (room : Room) (default value : Value) :
    (∃ view, integerOf room default value = .ok view ∧ (view = default ∨ ∃ n, view = .int n)) ∨
      ∃ activity, integerOf room default value = .error (.tooDeep activity) ∧
        value ≠ .null ∧ (∀ n, value ≠ .int n) ∧
        value.plainWithin room.showing = .error (.tooDeep activity) := by
  unfold integerOf
  split
  · exact .inl ⟨_, rfl, .inl rfl⟩
  · exact .inl ⟨_, rfl, .inr ⟨_, rfl⟩⟩
  · exact .inl ⟨_, rfl, .inr ⟨_, rfl⟩⟩
  · rename_i present _ foreign
    split
    · exact .inl ⟨_, rfl, .inr ⟨_, rfl⟩⟩
    · exact .inl ⟨_, rfl, .inl rfl⟩
    · rename_i activity failed
      exact .inr ⟨activity, rfl, present, foreign, plainWithin_of_readDisplayed failed⟩

theorem isIntegerView_getInteger (room : Room) (key : String) (default : Value) :
    IsIntegerView room default (effective? environment made key)
      ((after environment made).getInteger room key default) := by
  rw [getInteger, get, find?_after]
  cases effective? environment made key with
  | none =>
      change IsIntegerView room default none (integerOf room default default)
      rcases integerOf_cases room default default with
        ⟨view, viewed, own⟩ | ⟨activity, failed, present, foreign, display⟩
      · rw [viewed]
        exact .absent own
      · rw [failed]
        exact .deep present foreign (Value.le_levels_of_plainWithin display)
  | some text =>
      have displayed : readDisplayed room (.text text) =
          (readInteger (trim text.toList)).mapError .number := rfl
      change IsIntegerView room default (some text) (integerOf room default (.text text))
      unfold integerOf
      dsimp only
      rw [displayed]
      cases read : readInteger (trim text.toList) with
      | ok n => exact .integer (readInteger_trim_eq_ok_iff.mp read)
      | error failure =>
          refine .other fun n stands => ?_
          rw [readInteger_trim_eq_ok_iff.mpr stands] at read
          contradiction

section JsonOf

variable {room : Room} {default : Value} {text : String}

theorem jsonOf_eq_ok {document : Document}
    (read : readWithin room.reading text.toList = .ok document) :
    jsonOf room default (.text text) = .ok (.document document) := by
  unfold jsonOf
  dsimp only
  rw [read]

theorem jsonOf_eq_default (failed : readWithin room.reading text.toList = .error .malformed) :
    jsonOf room default (.text text) = .ok (.given default) := by
  unfold jsonOf
  dsimp only
  rw [failed]

theorem jsonOf_eq_error {error : ReadError} (limit : error ≠ .malformed)
    (failed : readWithin room.reading text.toList = .error error) :
    jsonOf room default (.text text) = .error (.read error) := by
  unfold jsonOf
  dsimp only
  rw [failed]
  cases error with
  | malformed => contradiction
  | number | tooDeep => rfl

end JsonOf

theorem isJsonView_getJson (room : Room) (key : String) (default : Value) :
    IsJsonView room default (effective? environment made key)
      ((after environment made).getJson room key default) := by
  rw [getJson, get, find?_after]
  cases effective? environment made key with
  | none => exact .absent
  | some text =>
      change IsJsonView room default (some text) (jsonOf room default (.text text))
      cases read : readWithin room.reading text.toList with
      | ok document =>
          rw [jsonOf_eq_ok read]
          exact .document (exists_readWithin_iff.mp ⟨document, read⟩) read
      | error failure =>
          by_cases limit : failure = .malformed
          · subst limit
            rw [jsonOf_eq_default read]
            refine .malformed (fun isDocument => ?_) fun error exceeds => ?_
            · obtain ⟨document, same⟩ := exists_readWithin_iff.mpr isDocument
              rw [same] at read
              contradiction
            · have failed := (readWithin_eq_error_iff exceeds.ne_malformed).mpr exceeds
              rw [failed] at read
              exact exceeds.ne_malformed (Except.error.inj read)
          · rw [jsonOf_eq_error limit read]
            exact .exceeds ((readWithin_eq_error_iff limit).mp read)

/-- The lifetime of the catalog can always be told, and is never negative. -/
theorem exists_cacheLifetime_after (room : Room) :
    ∃ n, (after environment made).cacheLifetime room = .ok n ∧ 0 ≤ n := by
  have view := isIntegerView_getInteger environment made room "SCHEMA_CACHE_TTL"
    (.int defaultLifetime)
  have succeeds : ∃ value, (after environment made).getInteger room "SCHEMA_CACHE_TTL"
      (.int defaultLifetime) = .ok value := by
    generalize (after environment made).getInteger room _ _ = run at view
    generalize effective? environment made _ = text? at view
    cases view with
    | integer | other | absent => exact ⟨_, rfl⟩
    | deep _ foreign => exact absurd rfl (foreign defaultLifetime)
  obtain ⟨value, viewed⟩ := succeeds
  rw [cacheLifetime, viewed, ok_bind]
  split
  · refine ⟨_, rfl, ?_⟩
    split
    · assumption
    · decide
  · exact ⟨defaultLifetime, rfl, by decide⟩

/--
The views of settings over an environment, whatever has been made on top of it, and whatever
room there is.  The one as a truth value never fails.  The one as an integer gives the default
for every text that does not stand for an integer, and fails only for a default of another type
that is too deep to be displayed.  The one as JSON gives the document of a text and the default
for every other text, but fails for texts that exceed a limit before they turn out malformed.
The lifetime of the catalog is a number that is not negative.
-/
theorem views_after (room : Room) (key : String) (default : Value) :
    IsTruthView default (effective? environment made key)
        ((after environment made).getTruth key default) ∧
      IsIntegerView room default (effective? environment made key)
        ((after environment made).getInteger room key default) ∧
      IsJsonView room default (effective? environment made key)
        ((after environment made).getJson room key default) ∧
      ∃ n, (after environment made).cacheLifetime room = .ok n ∧ 0 ≤ n :=
  ⟨isTruthView_getTruth environment made key default,
    isIntegerView_getInteger environment made room key default,
    isJsonView_getJson environment made room key default,
    exists_cacheLifetime_after environment made room⟩

/-- More ones than may be read exceed the limit of digits. -/
theorem exceedsDocument_replicate {count : Nat} (long : maxDigits < count) (nesting : Nat) :
    ExceedsDocument (.number (.tooManyDigits count)) nesting (List.replicate count '1') := by
  have positive : count ≠ 0 := Nat.ne_zero_of_lt long
  let ones : Numeral :=
    { negative := false, whole := List.replicate count '1', fraction := [], exponent := []
      isDigits_whole := by
        refine ⟨by simpa using positive, fun c member => ?_⟩
        rw [List.eq_of_mem_replicate member]
        decide
      eq_of_leading := by
        intro leading
        rw [List.head?_replicate, if_neg positive] at leading
        exact absurd leading (by decide)
      isFraction := .inl rfl
      isExponent := .inl rfl }
  have isLong : ones.IsLong := ⟨rfl, rfl, by simpa [ones] using long⟩
  have blank : IsBlanks [] := fun _ member => absurd member List.not_mem_nil
  have exceeds : ExceedsDocument _ nesting ([] ++ (ones.text ++ [])) :=
    .value blank (.numeral ones isLong (ends_of_isBlanks blank))
  have text : [] ++ (ones.text ++ []) = List.replicate count '1' := by
    simp [ones, Numeral.text, Numeral.unsigned, withSign]
  have digits : ones.whole.length = count := List.length_replicate
  rw [text, digits] at exceeds
  exact exceeds

/-- The view as JSON fails for a text of the environment that exceeds a limit. -/
theorem getJson_eq_error {room : Room} {text key : String} {error : ReadError}
    (exceeds : ExceedsDocument error room.reading text.toList) (default : Value) :
    (after [(key, text)] []).getJson room key default = .error (.read error) := by
  have found : effective? [(key, text)] [] key = some text := by simp [effective?]
  have failed := (readWithin_eq_error_iff exceeds.ne_malformed).mpr exceeds
  rw [getJson, get, find?_after, found]
  exact jsonOf_eq_error exceeds.ne_malformed failed

/-- One digit more than may be read is enough for the view as JSON to fail. -/
theorem getJson_eq_error_longAliases :
    let room : Room := { writing := 900, showing := 900, reading := 900 }
    (after [("ALIASES", String.ofList (List.replicate 4301 '1'))] []).getJson room "ALIASES"
      (.int 7) = .error (.read (.number (.tooManyDigits 4301))) := by
  intro room
  refine getJson_eq_error ?_ (.int 7)
  rw [String.toList_ofList]
  exact exceedsDocument_replicate (by decide) room.reading

end RideQuery.Settings
