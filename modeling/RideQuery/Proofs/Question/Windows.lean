import RideQuery.Proofs.Calendar.Order
import RideQuery.Proofs.Question.Rejection

/-!
# Spans of days and the calendar

A relative date means a span of days that the calendar tells: the whole month before that of
the day on which a question is asked, the month up to that day, the week from Monday up to
that day, or the whole week before that one.  The span never ends before it starts, and
neither does the text of it.
-/

namespace RideQuery.Calendar.Date

variable {d e : Date}

/-! ## Days before a date -/

theorem one_le_ordinal (d : Date) : 1 ≤ d.ordinal := by
  have day : 1 ≤ d.day := d.valid.2.2.2.2.1
  rw [ordinal]
  omega

/-- The first date has none before it. -/
theorem previous_eq_error (first : d.ordinal = 1) : ∃ failure, d.previous = .error failure := by
  have own : d = ⟨1, 1, 1, by decide⟩ := ordinal_injective first
  rw [own]
  exact ⟨.outOfRange, rfl⟩

/-- The date before another is the one whose number is lower by one. -/
theorem previous_eq_ok_iff : d.previous = .ok e ↔ e.ordinal + 1 = d.ordinal := by
  rcases Nat.lt_or_ge 1 d.ordinal with later | first
  · obtain ⟨earlier, found, number⟩ := exists_previous later
    rw [found, Except.ok.injEq]
    constructor
    · rintro rfl
      exact number
    · intro same
      exact ordinal_injective (by omega)
  · have positive := e.one_le_ordinal
    obtain ⟨failure, failed⟩ := previous_eq_error (Nat.le_antisymm first d.one_le_ordinal)
    rw [failed]
    exact iff_of_false nofun (by omega)

/-- Going back some days lowers the number by as many. -/
theorem daysBefore_eq_ok_iff {count : Nat} :
    daysBefore count d = .ok e ↔ e.ordinal + count = d.ordinal := by
  induction count generalizing d with
  | zero =>
      rw [daysBefore, Except.ok.injEq]
      exact ⟨fun same => same ▸ rfl, fun same => (ordinal_injective same).symm⟩
  | succ count inductionHypothesis =>
      rw [daysBefore, bind_eq_ok_iff]
      simp only [inductionHypothesis, previous_eq_ok_iff]
      constructor
      · rintro ⟨previous, stepped, gone⟩
        omega
      · intro number
        have positive := e.one_le_ordinal
        obtain ⟨previous, _, stepped⟩ := exists_previous (d := d) (by omega)
        exact ⟨previous, stepped, by omega⟩

/-! ## Months -/

/-- Dates in the month before that of another date. -/
def IsInMonthBefore (day today : Date) : Prop :=
  12 * day.year + day.month + 1 = 12 * today.year + today.month

/-- Dates in the month of another date. -/
def IsInMonthOf (day today : Date) : Prop :=
  day.year = today.year ∧ day.month = today.month

/-- The dates of a month are those from its first to its last day. -/
theorem isInMonthOf_iff : d.IsInMonthOf e ↔ e.monthStart ≤ d ∧ d ≤ e.monthEnd := by
  obtain ⟨_, _, _, _, dayFirst, dayLast⟩ := d.valid
  have start : d < e.monthStart ↔ d.year < e.year ∨
      d.year = e.year ∧ (d.month < e.month ∨ d.month = e.month ∧ d.day < 1) := lt_iff
  have finish : e.monthEnd < d ↔ e.year < d.year ∨ e.year = d.year ∧
      (e.month < d.month ∨ e.month = d.month ∧ daysInMonth e.year e.month < d.day) := lt_iff
  change _ ↔ ¬_ ∧ ¬_
  rw [start, finish, IsInMonthOf]
  constructor
  · rintro ⟨year, month⟩
    rw [year, month] at dayLast
    omega
  · omega

theorem monthStart_le (d : Date) : d.monthStart ≤ d :=
  (isInMonthOf_iff.mp ⟨rfl, rfl⟩).1

theorem le_monthEnd (d : Date) : d ≤ d.monthEnd :=
  (isInMonthOf_iff.mp ⟨rfl, rfl⟩).2

/-- A date made of given parts has those parts. -/
theorem parts_of_ofParts? {year month day : Nat} (made : ofParts? year month day = some e) :
    1 ≤ year ∧ e.year = year ∧ e.month = month ∧ e.day = day := by
  rw [ofParts?] at made
  split at made
  next valid =>
    obtain rfl := Option.some.inj made
    exact ⟨valid.1, rfl, rfl, rfl⟩
  next => contradiction

theorem isInMonthBefore_of_previousMonthStart (found : d.previousMonthStart = .ok e) :
    e.day = 1 ∧ e.IsInMonthBefore d := by
  obtain ⟨_, _, monthFirst, _⟩ := d.valid
  rw [IsInMonthBefore]
  rw [previousMonthStart] at found
  split at found <;> split at found
  next made =>
    obtain rfl := Except.ok.inj found
    obtain ⟨positive, year, month, day⟩ := parts_of_ofParts? made
    exact ⟨day, by omega⟩
  next => contradiction
  next made =>
    obtain rfl := Except.ok.inj found
    obtain ⟨_, year, month, day⟩ := parts_of_ofParts? made
    exact ⟨day, by omega⟩
  next => contradiction

end RideQuery.Calendar.Date

namespace RideQuery.Question

open RideQuery.Text RideQuery.Calendar

/-! ## Weeks -/

/-- The latest Monday that is not after a date. -/
structure IsMondayOf (today monday : Date) : Prop where
  weekday : monday.weekday = 0
  notAfter : monday ≤ today
  latest : ∀ other : Date, other.weekday = 0 → other ≤ today → other ≤ monday

variable {today monday : Date}

/-- The Monday of a week is as many days before a date as the weekday of the date tells. -/
theorem isMondayOf_of_ordinal (number : monday.ordinal + today.weekday = today.ordinal) :
    IsMondayOf today monday where
  weekday := by
    rw [Date.weekday] at number ⊢
    omega
  notAfter := by
    rw [← Date.ordinal_le_iff]
    omega
  latest := by
    intro other weekday notAfter
    rw [← Date.ordinal_le_iff] at notAfter ⊢
    rw [Date.weekday] at weekday number
    omega

theorem isMondayOf_of_mondayOf (found : mondayOf today = .ok monday) :
    IsMondayOf today monday :=
  isMondayOf_of_ordinal (Date.daysBefore_eq_ok_iff.mp found)

/-! ## Spans -/

/-- The dates of a span, both ends included. -/
instance : Membership Date Window where
  mem window day := window.first ≤ day ∧ day ≤ window.last

theorem mem_window_iff {day : Date} {window : Window} :
    day ∈ window ↔ window.first ≤ day ∧ day ≤ window.last :=
  Iff.rfl

/-- The spans of days that relative dates mean by the calendar. -/
inductive IsWindowOf (today : Date) : RelativeDate → Window → Prop
  /-- The dates of the month before that of today. -/
  | lastMonth {window : Window} (first : window.first.day = 1)
      (last : window.last.day = daysInMonth window.last.year window.last.month)
      (days : ∀ day, day ∈ window ↔ day.IsInMonthBefore today) :
      IsWindowOf today .lastMonth window
  /-- The dates of the month of today that are not after today. -/
  | thisMonth {window : Window} (first : window.first.day = 1) (last : window.last = today)
      (days : ∀ day, day ∈ window ↔ day.IsInMonthOf today ∧ day ≤ today) :
      IsWindowOf today .thisMonth window
  /-- Seven dates, from a Monday to the Sunday before the Monday of today's week. -/
  | lastWeek {window : Window} {monday : Date} (isMonday : IsMondayOf today monday)
      (dayBefore : ∀ day, day ≤ window.last ↔ day < monday) (sunday : window.last.weekday = 6)
      (first : IsMondayOf window.last window.first)
      (seven : window.last.ordinal + 1 = window.first.ordinal + 7) :
      IsWindowOf today .lastWeek window
  /-- The dates from the Monday of today's week to today. -/
  | thisWeek {window : Window} (first : IsMondayOf today window.first)
      (last : window.last = today) : IsWindowOf today .thisWeek window

/-- The day before the first of a month is the last day of the month before. -/
theorem previous_monthStart {start last : Date} (found : today.previousMonthStart = .ok start)
    (before : today.monthStart.previous = .ok last) : last = start.monthEnd := by
  have same : today.monthStart.previousMonthStart = .ok start := found
  have first : today.monthStart.day = 1 := rfl
  rw [Date.previous, if_pos first, same] at before
  exact (Except.ok.inj before).symm

theorem isInMonthBefore_iff {start day : Date} (before : start.IsInMonthBefore today) :
    day.IsInMonthBefore today ↔ day.IsInMonthOf start := by
  obtain ⟨_, _, monthFirst, monthLast, _⟩ := day.valid
  obtain ⟨_, _, startFirst, startLast, _⟩ := start.valid
  rw [Date.IsInMonthBefore] at before ⊢
  rw [Date.IsInMonthOf]
  omega

theorem isWindowOf_of_windowOn {relative : RelativeDate} {window : Window}
    (found : windowOn today relative = .ok window) : IsWindowOf today relative window := by
  cases relative with
  | lastMonth =>
      obtain ⟨first, firstFound, rest⟩ := bind_eq_ok_iff.mp found
      obtain ⟨last, lastFound, done⟩ := bind_eq_ok_iff.mp rest
      obtain rfl := pure_eq_ok_iff.mp done
      obtain rfl := previous_monthStart firstFound lastFound
      obtain ⟨day, before⟩ := Date.isInMonthBefore_of_previousMonthStart firstFound
      have start : first.monthStart = first := Date.ext_fields rfl rfl day.symm
      refine .lastMonth day rfl fun other => ?_
      rw [isInMonthBefore_iff before, Date.isInMonthOf_iff, start, mem_window_iff]
  | thisMonth =>
      obtain rfl := pure_eq_ok_iff.mp found
      refine .thisMonth rfl rfl fun day => ?_
      rw [mem_window_iff, Date.isInMonthOf_iff]
      constructor
      · rintro ⟨first, last⟩
        exact ⟨⟨first, Date.le_trans last today.le_monthEnd⟩, last⟩
      · exact fun both => ⟨both.1.1, both.2⟩
  | lastWeek =>
      obtain ⟨monday, mondayFound, rest⟩ := bind_eq_ok_iff.mp found
      obtain ⟨first, firstFound, rest⟩ := bind_eq_ok_iff.mp rest
      obtain ⟨last, lastFound, done⟩ := bind_eq_ok_iff.mp rest
      obtain rfl := pure_eq_ok_iff.mp done
      have isMonday := isMondayOf_of_mondayOf mondayFound
      have weekday := isMonday.weekday
      have firstNumber := Date.daysBefore_eq_ok_iff.mp firstFound
      have lastNumber := Date.previous_eq_ok_iff.mp lastFound
      have sunday : last.weekday = 6 := by
        rw [Date.weekday] at weekday ⊢
        omega
      have isFirst : IsMondayOf last first := by
        apply isMondayOf_of_ordinal
        rw [sunday]
        omega
      have seven : last.ordinal + 1 = first.ordinal + 7 := by omega
      refine .lastWeek isMonday (fun day => ?_) sunday isFirst seven
      change day ≤ last ↔ day < monday
      rw [← Date.ordinal_le_iff, ← Date.ordinal_lt_iff]
      omega
  | thisWeek =>
      obtain ⟨first, firstFound, done⟩ := bind_eq_ok_iff.mp found
      obtain rfl := pure_eq_ok_iff.mp done
      exact .thisWeek (isMondayOf_of_mondayOf firstFound) rfl

/-- A span does not end before it starts. -/
theorem first_le_last_of_windowOn {relative : RelativeDate} {window : Window}
    (found : windowOn today relative = .ok window) : window.first ≤ window.last := by
  cases isWindowOf_of_windowOn found with
  | lastMonth =>
      obtain ⟨first, firstFound, rest⟩ := bind_eq_ok_iff.mp found
      obtain ⟨last, lastFound, done⟩ := bind_eq_ok_iff.mp rest
      obtain rfl := pure_eq_ok_iff.mp done
      obtain rfl := previous_monthStart firstFound lastFound
      exact first.le_monthEnd
  | thisMonth =>
      obtain rfl := pure_eq_ok_iff.mp found
      exact today.monthStart_le
  | lastWeek _ _ _ first => exact first.notAfter
  | thisWeek first last =>
      rw [last]
      exact first.notAfter

/-! ## Spans of questions -/

/--
From the second month of the calendar on, every relative date means a span of days, which is
the one that the calendar tells.  It does not end before it starts, and neither does its text.
A question that names the relative date has this span for its range, in text, unless it speaks
of a first week.
-/
theorem exists_isWindowOf (later : today.IsAfterFirstMonth) (relative : RelativeDate) :
    ∃ window, windowOn today relative = .ok window ∧ IsWindowOf today relative window ∧
      window.first ≤ window.last ∧ window.first.iso ≤ window.last.iso ∧
      ∀ text, relativeDate? (lower text) = some relative →
        relativeWindow (lower text) today = .ok (some (relative, window)) ∧
        ∀ range, speaksOfFirstWeek (lower text) = false → dateRange text today = .ok range →
          ∃ given, range = some given ∧ given.startDate = some window.first.iso ∧
            given.endDate = some window.last.iso := by
  obtain ⟨window, found⟩ := exists_windowOn later relative
  have ordered := first_le_last_of_windowOn found
  refine ⟨window, found, isWindowOf_of_windowOn found, ordered, Date.iso_le_iff.mpr ordered, ?_⟩
  intro text named
  have spanned : relativeWindow (lower text) today = .ok (some (relative, window)) := by
    rw [relativeWindow, named]
    simp only [found]
  refine ⟨spanned, fun range usual ranged => ?_⟩
  obtain ⟨month, _, rest⟩ := bind_eq_ok_iff.mp ranged
  obtain ⟨span, spanFound, done⟩ := bind_eq_ok_iff.mp rest
  obtain rfl := Except.ok.inj (spanned.symm.trans spanFound)
  simp only [pure_eq_ok_iff, usual, Bool.false_eq_true, if_false, Option.map_some] at done
  rw [← done, if_neg (by simp)]
  exact ⟨_, rfl, rfl, rfl⟩

theorem exists_isWindowOf_leapYear :
    (⟨2024, 3, 31, by decide⟩ : Date).IsAfterFirstMonth ∧
      ∃ window, windowOn ⟨2024, 3, 31, by decide⟩ .lastMonth = .ok window ∧
        window.first.iso = "2024-02-01" ∧ window.last.iso = "2024-02-29" ∧
        window.first.iso ≤ window.last.iso := by
  have later : (⟨2024, 3, 31, by decide⟩ : Date).IsAfterFirstMonth := by decide
  obtain ⟨window, found, _, _, ordered, _⟩ := exists_isWindowOf later .lastMonth
  have own : windowOn ⟨2024, 3, 31, by decide⟩ .lastMonth =
      .ok ⟨⟨2024, 2, 1, by decide⟩, ⟨2024, 2, 29, by decide⟩⟩ := by decide
  obtain rfl := Except.ok.inj (own.symm.trans found)
  exact ⟨later, _, own, by decide, by decide, ordered⟩

end RideQuery.Question
