import RideQuery.Calendar.Date

/-!
# Numbers of dates

Going back one day lowers the number of a date by one.  Since the first date has the number
1, going back fails only if fewer dates are left than are asked for.
-/

namespace RideQuery.Calendar

/-! ## Days of months and years -/

/-- A year has one more day if it is a leap year. -/
theorem daysBeforeYear_succ (past : Nat) :
    Date.daysBeforeYear (past + 2) =
      Date.daysBeforeYear (past + 1) + (if isLeap (past + 1) then 366 else 365) := by
  have quotient : ∀ divisor, (past + 1) / divisor =
      past / divisor + if (past + 1) % divisor = 0 then 1 else 0 := by
    intro divisor
    rw [Nat.succ_div]
    simp only [Nat.dvd_iff_mod_eq_zero]
  have centuries : past / 100 ≤ past / 4 := by omega
  have hundreds : (past + 1) % 400 = 0 → (past + 1) % 100 = 0 := by omega
  have fours : (past + 1) % 100 = 0 → (past + 1) % 4 = 0 := by omega
  simp only [Date.daysBeforeYear, isLeap, Nat.add_sub_cancel, Nat.reduceSubDiff, quotient]
  -- The quotients are taken for themselves, so that only the three divisibilities matter.
  generalize past / 4 = four, past / 100 = hundred, past / 400 = fourHundred at *
  by_cases byFour : (past + 1) % 4 = 0
  · by_cases byHundred : (past + 1) % 100 = 0
    · by_cases byFourHundred : (past + 1) % 400 = 0
      all_goals
        simp [byFour, byHundred, byFourHundred]
        omega
    · have notByFourHundred : ¬(past + 1) % 400 = 0 := fun divisible =>
        byHundred (hundreds divisible)
      simp [byFour, byHundred, notByFourHundred]
      omega
  · have notByHundred : ¬(past + 1) % 100 = 0 := fun divisible => byFour (fours divisible)
    have notByFourHundred : ¬(past + 1) % 400 = 0 := fun divisible =>
      notByHundred (hundreds divisible)
    simp [byFour, notByHundred, notByFourHundred]
    omega

theorem daysBeforeMonth_succ (year : Nat) {month : Nat} (positive : 1 ≤ month) :
    Date.daysBeforeMonth year (month + 1) =
      Date.daysBeforeMonth year month + daysInMonth year month := by
  cases month with
  | zero => contradiction
  | succ month => rfl

theorem le_daysBeforeMonth (year past : Nat) : 31 ≤ Date.daysBeforeMonth year (past + 2) := by
  induction past with
  | zero => exact Nat.le_refl 31
  | succ past inductionHypothesis =>
      rw [daysBeforeMonth_succ year (by omega)]
      omega

/-- The last month ends with the year. -/
theorem daysBeforeMonth_last (year : Nat) :
    Date.daysBeforeMonth year 12 + 31 = if isLeap year then 366 else 365 := by
  simp only [Date.daysBeforeMonth, daysInMonth]
  cases isLeap year <;> rfl

namespace Date

theorem ofParts?_of_exists {year month day : Nat} (valid : Exists year month day) :
    ofParts? year month day = some ⟨year, month, day, valid⟩ :=
  dif_pos valid

/-! ## Going back -/

/-- Dates from the second month of the first year on. -/
def IsAfterFirstMonth (d : Date) : Prop :=
  1 < d.year ∨ 1 < d.month

instance (d : Date) : Decidable d.IsAfterFirstMonth :=
  inferInstanceAs (Decidable (_ ∨ _))

variable {d : Date}

/-- At least the days of the first month come before a date in a later month. -/
theorem IsAfterFirstMonth.le_ordinal (later : d.IsAfterFirstMonth) :
    31 + d.day ≤ d.ordinal := by
  have before : 31 ≤ daysBeforeYear d.year + daysBeforeMonth d.year d.month := by
    rcases later with year | month
    · obtain ⟨past, year_eq⟩ := Nat.exists_eq_add_of_le' year
      have years := daysBeforeYear_succ past
      rw [year_eq, years]
      split <;> omega
    · obtain ⟨past, month_eq⟩ := Nat.exists_eq_add_of_le' month
      rw [month_eq]
      exact Nat.le_add_left_of_le (le_daysBeforeMonth d.year past)
  unfold ordinal
  omega

/-- The month before a later one ends on the day before that one starts. -/
theorem exists_previousMonthStart (later : d.IsAfterFirstMonth) :
    ∃ start, d.previousMonthStart = .ok start ∧
      start.monthEnd.ordinal + 1 = d.monthStart.ordinal := by
  obtain ⟨yearFirst, yearLast, monthFirst, monthLast, _, _⟩ := d.valid
  rw [previousMonthStart]
  by_cases january : d.month = 1
  · have year : 1 < d.year := later.resolve_right (by omega)
    have valid : Exists (d.year - 1) 12 1 :=
      ⟨Nat.le_sub_one_of_lt year, by omega, by decide, by decide, by decide,
        one_le_daysInMonth _ _⟩
    have years : daysBeforeYear d.year =
        daysBeforeYear (d.year - 1) + (daysBeforeMonth (d.year - 1) 12 + 31) := by
      obtain ⟨past, year_eq⟩ := Nat.exists_eq_add_of_le' year
      rw [daysBeforeMonth_last, year_eq]
      exact daysBeforeYear_succ past
    have months : daysBeforeMonth d.year 1 = 0 := rfl
    rw [if_pos january, ofParts?_of_exists valid]
    refine ⟨_, rfl, ?_⟩
    change daysBeforeYear (d.year - 1) + daysBeforeMonth (d.year - 1) 12 + 31 + 1 =
      daysBeforeYear d.year + daysBeforeMonth d.year d.month + 1
    rw [january, years, months]
    omega
  · have valid : Exists d.year (d.month - 1) 1 :=
      ⟨yearFirst, yearLast, by omega, by omega, by decide, one_le_daysInMonth _ _⟩
    have months := daysBeforeMonth_succ d.year (Nat.le_sub_one_of_lt (by omega : 1 < d.month))
    rw [Nat.sub_add_cancel monthFirst] at months
    rw [if_neg january, ofParts?_of_exists valid]
    refine ⟨_, rfl, ?_⟩
    change daysBeforeYear d.year + daysBeforeMonth d.year (d.month - 1) +
      daysInMonth d.year (d.month - 1) + 1 =
        daysBeforeYear d.year + daysBeforeMonth d.year d.month + 1
    rw [months]
    omega

/-- The first day of a month is only the first date if it is in the first month. -/
theorem isAfterFirstMonth_of_day (later : 1 < d.ordinal) (first : d.day = 1) :
    d.IsAfterFirstMonth := by
  obtain ⟨yearFirst, _, monthFirst, _⟩ := d.valid
  rcases Nat.lt_or_ge 1 d.year with year | year
  · exact .inl year
  · rcases Nat.lt_or_ge 1 d.month with month | month
    · exact .inr month
    · have year_eq : d.year = 1 := Nat.le_antisymm year yearFirst
      have month_eq : d.month = 1 := Nat.le_antisymm month monthFirst
      have number : d.ordinal = 1 := by
        rw [ordinal, year_eq, month_eq, first]
        rfl
      omega

/-- Every date but the first has one before it, whose number is lower by one. -/
theorem exists_previous (later : 1 < d.ordinal) :
    ∃ earlier, d.previous = .ok earlier ∧ earlier.ordinal + 1 = d.ordinal := by
  obtain ⟨yearFirst, yearLast, monthFirst, monthLast, dayFirst, dayLast⟩ := d.valid
  rw [previous]
  by_cases first : d.day = 1
  · obtain ⟨start, found, number⟩ :=
      exists_previousMonthStart (isAfterFirstMonth_of_day later first)
    rw [if_pos first, found]
    refine ⟨start.monthEnd, rfl, number.trans ?_⟩
    rw [ordinal, ordinal, first]
    rfl
  · have valid : Exists d.year d.month (d.day - 1) :=
      ⟨yearFirst, yearLast, monthFirst, monthLast, by omega, by omega⟩
    rw [if_neg first, ofParts?_of_exists valid]
    refine ⟨_, rfl, ?_⟩
    change daysBeforeYear d.year + daysBeforeMonth d.year d.month + (d.day - 1) + 1 = d.ordinal
    rw [ordinal]
    omega

/-- As many days as come before a date can be gone back. -/
theorem exists_daysBefore {count : Nat} (enough : count < d.ordinal) :
    ∃ earlier, daysBefore count d = .ok earlier ∧ earlier.ordinal + count = d.ordinal := by
  induction count generalizing d with
  | zero => exact ⟨d, rfl, rfl⟩
  | succ count inductionHypothesis =>
      have later : 1 < d.ordinal := by omega
      obtain ⟨previous, stepped, number⟩ := exists_previous later
      have left : count < previous.ordinal := by omega
      obtain ⟨earlier, gone, earlierNumber⟩ := inductionHypothesis left
      rw [daysBefore, stepped]
      exact ⟨earlier, gone, by omega⟩

end Date

end RideQuery.Calendar
