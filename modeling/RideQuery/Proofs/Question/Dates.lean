import RideQuery.Proofs.Calendar.Text
import RideQuery.Proofs.Fallible
import RideQuery.Proofs.Text.Search
import RideQuery.Question.Dates

/-!
# What dates in questions amount to

However a question speaks of dates, the range that is found has both of its bounds or
neither, and the bounds are written dates.  Its month is one of twelve numbers and its year
consists of four decimal digits, which may belong to any script.
-/

namespace RideQuery.Question

open RideQuery.Text RideQuery.Number RideQuery.Calendar

/-- Ranges with written dates, a month in two digits and a year in four. -/
structure IsWritten (range : DateRange) : Prop where
  bounds : (range.startDate = none ∧ range.endDate = none) ∨
    ∃ first last : Date, range.startDate = some first.iso ∧ range.endDate = some last.iso
  month : ∀ text ∈ range.specificMonth,
    ∃ number, 1 ≤ number ∧ number ≤ 12 ∧ text = String.ofList (Date.padded 2 number)
  year : ∀ text ∈ range.specificYear,
    text.toList.length = 4 ∧ ∀ c ∈ text.toList, isDecimalDigit c = true

theorem exists_of_monthNumber {name : List Char} {text : String}
    (found : monthNumber name = .ok text) :
    ∃ number, 1 ≤ number ∧ number ≤ 12 ∧ text = String.ofList (Date.padded 2 number) := by
  rw [monthNumber] at found
  split at found
  · rename_i index position
    obtain ⟨inside, _⟩ := List.findIdx?_eq_some_iff_getElem.mp position
    have twelve : index < 12 := inside
    exact ⟨index + 1, by omega, by omega, (Except.ok.inj found).symm⟩
  · contradiction

theorem exists_of_specificMonth {text : List Char} {month : Option String}
    (found : specificMonth text = .ok month) :
    ∀ written ∈ month,
      ∃ number, 1 ≤ number ∧ number ≤ 12 ∧ written = String.ofList (Date.padded 2 number) := by
  rw [specificMonth] at found
  split at found
  · rename_i name _
    cases numbered : monthNumber name with
    | error failure =>
        rw [numbered] at found
        contradiction
    | ok number =>
        rw [numbered] at found
        obtain rfl := Except.ok.inj found
        rintro written ⟨⟩
        exact exists_of_monthNumber numbered
  · obtain rfl := Except.ok.inj found
    nofun

theorem decimal_of_dropYear {text year : List Char} (dropped : dropYear text = some year) :
    year.length = 4 ∧ ∀ c ∈ year, isDecimalDigit c = true := by
  unfold dropYear at dropped
  split at dropped
  · split at dropped
    · rename_i a b c d rest here
      obtain rfl := Option.some.inj dropped
      simp only [Bool.and_eq_true, Bool.or_eq_true, beq_iff_eq] at here
      obtain ⟨⟨⟨century, third⟩, fourth⟩, _⟩ := here
      constructor
      · rfl
      · intro digit member
        simp only [List.mem_cons, List.not_mem_nil, or_false] at member
        rcases century with ⟨rfl, rfl⟩ | ⟨rfl, rfl⟩
        all_goals
          rcases member with rfl | rfl | rfl | rfl
          · decide
          · decide
          · exact third
          · exact fourth
    · contradiction
  · contradiction

theorem decimal_of_specificYear {text : List Char} :
    ∀ written ∈ specificYear text,
      written.toList.length = 4 ∧ ∀ c ∈ written.toList, isDecimalDigit c = true := by
  intro written found
  obtain ⟨year, search, rfl⟩ := Option.map_eq_some_iff.mp found
  obtain ⟨before, left, recognised⟩ := exists_of_findFirst search
  obtain ⟨_, _, dropped⟩ := Option.bind_eq_some_iff.mp recognised
  rw [String.toList_ofList]
  exact decimal_of_dropYear dropped

/-- The bounds of a first week are written dates. -/
theorem exists_firstWeek_eq : ∃ first last : Date, firstWeek = (first.iso, last.iso) :=
  ⟨⟨2025, 6, 1, by decide⟩, ⟨2025, 6, 7, by decide⟩, by decide⟩

/-- The range that a question's dates are found to be is written in full. -/
theorem isWritten_of_dateRange {text : List Char} {today : Date} {range : DateRange}
    (found : dateRange text today = .ok (some range)) : IsWritten range := by
  obtain ⟨month, monthFound, rest⟩ := bind_eq_ok_iff.mp found
  obtain ⟨relative, _, done⟩ := bind_eq_ok_iff.mp rest
  obtain ⟨_, range_eq⟩ := Option.ite_none_left_eq_some.mp (pure_eq_ok_iff.mp done)
  obtain rfl := Option.some.inj range_eq
  refine ⟨?_, exists_of_specificMonth monthFound, decimal_of_specificYear⟩
  dsimp only
  split
  · obtain ⟨first, last, week⟩ := exists_firstWeek_eq
    rw [week]
    exact .inr ⟨first, last, rfl, rfl⟩
  · cases relative with
    | none => exact .inl ⟨rfl, rfl⟩
    | some relative => exact .inr ⟨relative.2.first, relative.2.last, rfl, rfl⟩

end RideQuery.Question
