import RideQuery.Proofs.Calendar.Ordinal
import RideQuery.Proofs.Calendar.Text

/-!
# The order of dates

Dates are ordered by their years, then by their months and then by their days.  Their numbers
are ordered in the same way, and so are their texts, since every field is padded to its width.
-/

namespace RideQuery.Calendar

/-! ## Earlier months and years -/

theorem daysBeforeMonth_mono (year : Nat) {month later : Nat} (positive : 1 ≤ month)
    (before : month ≤ later) :
    Date.daysBeforeMonth year month ≤ Date.daysBeforeMonth year later := by
  induction later, before using Nat.le_induction with
  | base => exact Nat.le_refl _
  | succ later before inductionHypothesis =>
      rw [daysBeforeMonth_succ year (positive.trans before)]
      exact Nat.le_add_right_of_le inductionHypothesis

/-- A whole month comes before each later one. -/
theorem daysBeforeMonth_add_le (year : Nat) {month later : Nat} (positive : 1 ≤ month)
    (before : month < later) :
    Date.daysBeforeMonth year month + daysInMonth year month ≤
      Date.daysBeforeMonth year later := by
  rw [← daysBeforeMonth_succ year positive]
  exact daysBeforeMonth_mono year (Nat.le_add_left 1 month) before

theorem daysBeforeYear_mono {year later : Nat} (positive : 1 ≤ year) (before : year ≤ later) :
    Date.daysBeforeYear year ≤ Date.daysBeforeYear later := by
  induction later, before using Nat.le_induction with
  | base => exact Nat.le_refl _
  | succ later before inductionHypothesis =>
      obtain ⟨past, rfl⟩ := Nat.exists_eq_add_of_le' (positive.trans before)
      rw [daysBeforeYear_succ past]
      exact Nat.le_add_right_of_le inductionHypothesis

/-- A whole year comes before each later one. -/
theorem daysBeforeYear_add_le {year later : Nat} (positive : 1 ≤ year) (before : year < later) :
    Date.daysBeforeYear year + (Date.daysBeforeMonth year 12 + 31) ≤
      Date.daysBeforeYear later := by
  obtain ⟨past, rfl⟩ := Nat.exists_eq_add_of_le' positive
  rw [daysBeforeMonth_last, ← daysBeforeYear_succ past]
  exact daysBeforeYear_mono (Nat.le_add_left 1 _) before

namespace Date

variable {d e : Date}

/-! ## Dates -/

/-- Dates are earlier by their years, then by their months and then by their days. -/
instance : LT Date where
  lt d e := d.year < e.year ∨
    d.year = e.year ∧ (d.month < e.month ∨ d.month = e.month ∧ d.day < e.day)

/-- A date is not after another if that one is not earlier. -/
instance : LE Date where
  le d e := ¬e < d

theorem lt_iff : d < e ↔ d.year < e.year ∨
    d.year = e.year ∧ (d.month < e.month ∨ d.month = e.month ∧ d.day < e.day) :=
  Iff.rfl

instance (d e : Date) : Decidable (d < e) :=
  decidable_of_iff _ lt_iff.symm

instance (d e : Date) : Decidable (d ≤ e) :=
  inferInstanceAs (Decidable ¬e < d)

theorem ext_fields (year : d.year = e.year) (month : d.month = e.month) (day : d.day = e.day) :
    d = e := by
  cases d
  cases e
  simp_all

/-! ## Numbers of dates -/

theorem ordinal_lt_of_lt (earlier : d < e) : d.ordinal < e.ordinal := by
  obtain ⟨yearFirst, _, monthFirst, monthLast, _, dayLast⟩ := d.valid
  have dayFirst : 1 ≤ e.day := e.valid.2.2.2.2.1
  rw [ordinal, ordinal]
  rcases lt_iff.mp earlier with year | ⟨year, month | ⟨month, day⟩⟩
  · have years := daysBeforeYear_add_le yearFirst year
    -- The days up to `d` are at most those of its year.
    have within : daysBeforeMonth d.year d.month + d.day ≤ daysBeforeMonth d.year 12 + 31 := by
      have december : daysInMonth d.year 12 = 31 := rfl
      rcases Nat.lt_or_ge d.month 12 with before | last
      · have months := daysBeforeMonth_add_le d.year monthFirst before
        omega
      · have same : d.month = 12 := Nat.le_antisymm monthLast last
        rw [same] at dayLast ⊢
        omega
    omega
  · have months := daysBeforeMonth_add_le d.year monthFirst month
    rw [← year]
    omega
  · rw [← year, ← month]
    omega

/-- A date that is neither earlier nor later is the same. -/
theorem eq_of_not_lt (notEarlier : ¬d < e) (notLater : ¬e < d) : d = e := by
  rw [lt_iff] at notEarlier notLater
  exact ext_fields (by omega) (by omega) (by omega)

/-- Dates are ordered as their numbers are. -/
theorem ordinal_lt_iff : d.ordinal < e.ordinal ↔ d < e := by
  constructor
  · intro less
    by_contra notEarlier
    by_cases later : e < d
    · have greater := ordinal_lt_of_lt later
      omega
    · rw [eq_of_not_lt notEarlier later] at less
      exact Nat.lt_irrefl _ less
  · exact ordinal_lt_of_lt

theorem ordinal_le_iff : d.ordinal ≤ e.ordinal ↔ d ≤ e := by
  rw [← Nat.not_lt, ordinal_lt_iff]
  rfl

protected theorem le_trans {f : Date} (first : d ≤ e) (second : e ≤ f) : d ≤ f := by
  rw [← ordinal_le_iff] at first second ⊢
  exact Nat.le_trans first second

/-- A number is that of one date only. -/
theorem ordinal_injective (same : d.ordinal = e.ordinal) : d = e := by
  apply eq_of_not_lt
  · rw [← ordinal_lt_iff, same]
    exact Nat.lt_irrefl _
  · rw [← ordinal_lt_iff, same]
    exact Nat.lt_irrefl _

/-! ## Texts of dates -/

open RideQuery.Number

/-- Texts of one length are ordered by their first parts, and then by what follows. -/
theorem append_lt_append_iff {front other : List Char} (length : front.length = other.length)
    {rest left : List Char} :
    front ++ rest < other ++ left ↔ front < other ∨ front = other ∧ rest < left := by
  induction front generalizing other with
  | nil =>
      obtain rfl := List.length_eq_zero_iff.mp length.symm
      simp
  | cons c front inductionHypothesis =>
      cases other with
      | nil => contradiction
      | cons d other =>
          rw [List.cons_append, List.cons_append, List.cons_lt_cons_iff, List.cons_lt_cons_iff,
            inductionHypothesis (Nat.succ.inj length), List.cons.injEq]
          tauto

theorem toNat_lt_iff {c d : Char} : c.toNat < d.toNat ↔ c < d :=
  UInt32.lt_iff_toNat_lt.symm

/-- Runs of digits of one length are ordered as the numbers that they stand for. -/
theorem lt_iff_asciiValue_lt {digits others : List Char}
    (length : digits.length = others.length) (ascii : ∀ c ∈ digits, c.isDigit = true)
    (asciiOthers : ∀ c ∈ others, c.isDigit = true) :
    digits < others ↔ asciiValue digits < asciiValue others := by
  induction digits generalizing others with
  | nil =>
      obtain rfl := List.length_eq_zero_iff.mp length.symm
      simp
  | cons c digits inductionHypothesis =>
      cases others with
      | nil => contradiction
      | cons d others =>
          have same := Nat.succ.inj length
          obtain ⟨digit, rest⟩ := List.forall_mem_cons.mp ascii
          obtain ⟨digitOther, restOther⟩ := List.forall_mem_cons.mp asciiOthers
          have below := asciiValue_lt rest
          have belowOther := asciiValue_lt restOther
          have bounds := toNat_bounds_of_isDigit digit
          have boundsOther := toNat_bounds_of_isDigit digitOther
          rw [List.cons_lt_cons_iff, inductionHypothesis same rest restOther, asciiValue_cons,
            asciiValue_cons, ← same, ← toNat_lt_iff]
          rw [← same] at belowOther
          rcases Nat.lt_trichotomy c.toNat d.toNat with less | equal | greater
          · have step : 10 ^ digits.length * (c.toNat - 48 + 1) ≤
                10 ^ digits.length * (d.toNat - 48) := Nat.mul_le_mul_left _ (by omega)
            rw [Nat.mul_succ] at step
            exact iff_of_true (.inl less) (by omega)
          · obtain rfl : c = d := Char.toNat_inj.mp equal
            simp
          · have step : 10 ^ digits.length * (d.toNat - 48 + 1) ≤
                10 ^ digits.length * (c.toNat - 48) := Nat.mul_le_mul_left _ (by omega)
            rw [Nat.mul_succ] at step
            refine iff_of_false ?_ (by omega)
            rintro (less | ⟨rfl, _⟩)
            · omega
            · omega

/-- A number is read back from its padded digits. -/
theorem asciiValue_padded (width n : Nat) : asciiValue (padded width n) = n := by
  rw [padded, asciiValue_append, asciiValue_replicate_zero, Nat.mul_zero, Nat.zero_add,
    asciiValue_digitChars]

theorem padded_lt_iff {width m n : Nat} (positive : 0 < width) (first : m < 10 ^ width)
    (second : n < 10 ^ width) : padded width m < padded width n ↔ m < n := by
  have length : (padded width m).length = (padded width n).length := by
    rw [length_padded positive first, length_padded positive second]
  rw [lt_iff_asciiValue_lt length (fun c => isDigit_of_mem_padded)
    (fun c => isDigit_of_mem_padded), asciiValue_padded, asciiValue_padded]

theorem padded_inj {width m n : Nat} : padded width m = padded width n ↔ m = n := by
  constructor
  · intro same
    rw [← asciiValue_padded width m, same, asciiValue_padded]
  · rintro rfl
    rfl

theorem fields_lt (d : Date) : d.year < 10000 ∧ d.month < 100 ∧ d.day < 100 := by
  obtain ⟨_, yearLast, _, monthLast, _, dayLast⟩ := d.valid
  have days := daysInMonth_le d.year d.month
  have last : lastYear = 9999 := rfl
  omega

/-- The texts of dates are ordered as the dates are. -/
theorem iso_lt_iff : d.iso < e.iso ↔ d < e := by
  obtain ⟨dYear, dMonth, dDay⟩ := d.fields_lt
  obtain ⟨eYear, eMonth, eDay⟩ := e.fields_lt
  have years : (padded 4 d.year).length = (padded 4 e.year).length := by
    rw [length_padded (by decide) dYear, length_padded (by decide) eYear]
  have months : (padded 2 d.month).length = (padded 2 e.month).length := by
    rw [length_padded (by decide) dMonth, length_padded (by decide) eMonth]
  rw [String.lt_iff, iso, iso, String.toList_ofList, String.toList_ofList, isoChars, isoChars]
  simp only [List.append_assoc, List.cons_append]
  rw [append_lt_append_iff years, List.cons_lt_cons_iff, append_lt_append_iff months,
    List.cons_lt_cons_iff, padded_lt_iff (by decide) dYear eYear,
    padded_lt_iff (by decide) dMonth eMonth, padded_lt_iff (by decide) dDay eDay, lt_iff]
  simp [padded_inj]

theorem iso_le_iff : d.iso ≤ e.iso ↔ d ≤ e := by
  rw [← String.not_lt, iso_lt_iff]
  rfl

end Date

end RideQuery.Calendar
