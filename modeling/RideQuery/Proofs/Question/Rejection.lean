import RideQuery.Proofs.Calendar.Ordinal
import RideQuery.Proofs.Fallible
import RideQuery.Proofs.Question.Months
import RideQuery.Question.Analysis

/-!
# Questions without an intent

From the second month of the calendar on, the spans of days that a question can speak of
exist.  What is left to fail are the acceptance of a question and the look-up of a month
that is recognised by a letter outside ASCII.
-/

namespace RideQuery.Question

open RideQuery.Text RideQuery.Schema RideQuery.Calendar

variable {today : Date}

/-! ## Spans of days -/

theorem weekday_lt (date : Date) : date.weekday < 7 :=
  Nat.mod_lt _ (by decide)

/-- The Monday of a week is at most six days back. -/
theorem exists_mondayOf (later : today.IsAfterFirstMonth) :
    ∃ monday, mondayOf today = .ok monday ∧ today.ordinal ≤ monday.ordinal + 6 := by
  have number := later.le_ordinal
  have weekday := weekday_lt today
  have enough : today.weekday < today.ordinal := by omega
  obtain ⟨monday, found, mondayNumber⟩ := Date.exists_daysBefore enough
  exact ⟨monday, found, by omega⟩

theorem exists_windowOn (later : today.IsAfterFirstMonth) (relative : RelativeDate) :
    ∃ window, windowOn today relative = .ok window := by
  have number := later.le_ordinal
  cases relative with
  | lastMonth =>
      obtain ⟨first, firstFound, _⟩ := Date.exists_previousMonthStart later
      have startLater : today.monthStart.IsAfterFirstMonth := later
      have startNumber := startLater.le_ordinal
      have start : 1 < today.monthStart.ordinal := by omega
      obtain ⟨last, lastFound, _⟩ := Date.exists_previous start
      rw [windowOn, firstFound, ok_bind, lastFound]
      exact ⟨_, rfl⟩
  | thisMonth => exact ⟨_, rfl⟩
  | lastWeek =>
      obtain ⟨monday, mondayFound, mondayNumber⟩ := exists_mondayOf later
      have week : 7 < monday.ordinal := by omega
      obtain ⟨first, firstFound, _⟩ := Date.exists_daysBefore week
      have day : 1 < monday.ordinal := by omega
      obtain ⟨last, lastFound, _⟩ := Date.exists_previous day
      rw [windowOn, mondayFound, ok_bind, firstFound, ok_bind, lastFound]
      exact ⟨_, rfl⟩
  | thisWeek =>
      obtain ⟨monday, mondayFound, _⟩ := exists_mondayOf later
      rw [windowOn, mondayFound]
      exact ⟨_, rfl⟩

theorem exists_relativeWindow (later : today.IsAfterFirstMonth) (text : List Char) :
    ∃ result, relativeWindow text today = .ok result := by
  rw [relativeWindow]
  cases relativeDate? text with
  | none => exact ⟨none, rfl⟩
  | some relative =>
      obtain ⟨window, found⟩ := exists_windowOn later relative
      exact ⟨some (relative, window), by simp only [found]⟩

/-! ## Intents -/

/-- The dates of a question can only fail to be worked out for the sake of its month. -/
theorem dateRange_eq_error_iff (later : today.IsAfterFirstMonth) {text : List Char}
    {failure : DateError} :
    dateRange text today = .error failure ↔
      NamesStrangeMonth (lower text) ∧ failure = .strangeMonth := by
  rw [← specificMonth_eq_error_iff]
  obtain ⟨relative, found⟩ := exists_relativeWindow later (lower text)
  rw [dateRange]
  cases specificMonth (lower text) with
  | error monthFailure => simp only [error_bind, Except.error.injEq]
  | ok month =>
      simp only [ok_bind, found]
      simp [pure, Except.pure]

/--
From the second month of the calendar on, a question has no intent in two cases only: it is
not accepted, or the first month that it names is recognised by a letter outside ASCII.
-/
theorem analyze_eq_error_iff {asked : Asked} {columns : List Column}
    (later : today.IsAfterFirstMonth) {failure : AnalysisError} :
    analyze asked columns today = .error failure ↔
      (isValid asked = false ∧ failure = .rejected) ∨
        (isValid asked = true ∧ NamesStrangeMonth (lower (lower asked.chars)) ∧
          failure = .date .strangeMonth) := by
  have chars : Asked.chars (some (lowerText asked.text)) = lower asked.chars :=
    String.toList_ofList
  rw [analyze]
  cases isValid asked with
  | false => simp [eq_comm]
  | true =>
      simp only [if_true, chars]
      cases dated : dateRange (lower asked.chars) today with
      | error dateFailure =>
          obtain ⟨strange, rfl⟩ := (dateRange_eq_error_iff later).mp dated
          simp [strange, eq_comm]
      | ok range =>
          have usual : ¬NamesStrangeMonth (lower (lower asked.chars)) := by
            intro strange
            have failed := (dateRange_eq_error_iff later).mpr ⟨strange, rfl⟩
            rw [dated] at failed
            contradiction
          simp [usual]

theorem analyze_eq_error_greeting :
    (⟨2025, 6, 15, by decide⟩ : Date).IsAfterFirstMonth ∧
      analyze (some "Good morning") [] ⟨2025, 6, 15, by decide⟩ = .error .rejected :=
  ⟨by decide, (analyze_eq_error_iff (by decide)).mpr (.inl ⟨by decide +kernel, rfl⟩)⟩

/-- A question that is accepted and has no intent, for it spells a month with a long s. -/
theorem analyze_eq_error_longS :
    isValid (some "What happened in auguſt") = true ∧
      analyze (some "What happened in auguſt") [] ⟨2025, 6, 15, by decide⟩ =
        .error (.date .strangeMonth) :=
  ⟨by decide +kernel, by rfl⟩

end RideQuery.Question
