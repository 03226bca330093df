import RideQuery.Proofs.Query.Binding
import RideQuery.Proofs.Question.Dates

/-!
# Conditions on written dates

A range with written dates, months and years is never malformed, so it has conditions as
soon as the trips have a start.
-/

namespace RideQuery.Query

open RideQuery.Text RideQuery.Number RideQuery.Schema RideQuery.Calendar RideQuery.Question

theorem dropLineEnd_eq_self {text : List Char} (firm : text.getLast? ≠ some '\n') :
    dropLineEnd text = text := by
  rw [dropLineEnd, if_neg]
  simpa using firm

theorem isDateShaped_iso (date : Date) : isDateShaped date.iso = true := by
  obtain ⟨y₁, y₂, y₃, y₄, m₁, m₂, d₁, d₂, written, digits⟩ := date.exists_isoChars_eq
  have last : d₂ ≠ '\n' := by
    rintro rfl
    exact absurd (digits '\n' (by simp)) (by decide)
  rw [isDateShaped, Date.iso, String.toList_ofList, written, dropLineEnd_eq_self (by simpa)]
  exact List.all_eq_true.mpr fun digit member => isDecimalDigit_of_isDigit (digits digit member)

theorem exists_readMonth {number : Nat} (first : 1 ≤ number) (last : number ≤ 12) :
    ∃ month, readMonth (String.ofList (Date.padded 2 number)) = .ok month := by
  have months : ∀ number ∈ List.range' 1 12,
      (readMonth (String.ofList (Date.padded 2 number))).isOk = true := by decide
  exact exists_eq_ok_of_isOk (months number (List.mem_range'_1.mpr ⟨first, by omega⟩))

theorem exists_readYear {text : String} (length : text.toList.length = 4)
    (digits : ∀ c ∈ text.toList, isDecimalDigit c = true) :
    ∃ year, readYear text = .ok year := by
  have nonempty : text.toList ≠ [] := by
    rw [← List.length_pos_iff]
    omega
  have digitLike : allDigitLike text.toList = true := by
    rw [allDigitLike, List.isEmpty_eq_false_iff.mpr nonempty, Bool.not_false, Bool.true_and,
      List.all_eq_true]
    intro c member
    rw [isDigitLike, digits c member, Bool.true_or]
  have four : (text.length == 4) = true := by rw [← String.length_toList, length]; rfl
  have short : text.toList.length ≤ maxDigits := by
    rw [length]
    decide
  rw [readYear, digitLike, four, Bool.and_self, if_pos rfl, digitsNumber, if_pos digitLike,
    readInteger_of_isDecimalDigit nonempty digits short]
  exact ⟨_, rfl⟩

theorem eq_some_of_nonempty? {given : Option String} {text : String}
    (some : nonempty? given = some text) : given = .some text := by
  unfold nonempty? at some
  split at some
  · split at some
    · contradiction
    · exact some
  · contradiction

theorem eq_some_of_bounds? {range : DateRange} {first last : String}
    (bounds : range.bounds? = some (first, last)) :
    range.startDate = some first ∧ range.endDate = some last := by
  unfold DateRange.bounds? at bounds
  split at bounds
  · rename_i start finish startGiven finishGiven
    obtain ⟨rfl, rfl⟩ := Prod.mk.inj (Option.some.inj bounds)
    exact ⟨eq_some_of_nonempty? startGiven, eq_some_of_nonempty? finishGiven⟩
  · contradiction

/-- The bounds of a written range are shaped like dates. -/
theorem isDateShaped_of_isWritten {range : DateRange} (written : IsWritten range)
    {first last : String} (bounds : range.bounds? = some (first, last)) :
    isDateShaped first = true ∧ isDateShaped last = true := by
  obtain ⟨start, finish⟩ := eq_some_of_bounds? bounds
  rcases written.bounds with ⟨none, _⟩ | ⟨firstDate, lastDate, startWritten, finishWritten⟩
  · rw [none] at start
    contradiction
  · obtain rfl := Option.some.inj (startWritten.symm.trans start)
    obtain rfl := Option.some.inj (finishWritten.symm.trans finish)
    exact ⟨isDateShaped_iso firstDate, isDateShaped_iso lastDate⟩

theorem exists_monthCondition_iff {start : Reference} {month : Option String} :
    (∃ conditions, monthCondition start month = .ok conditions) ↔
      ∀ text ∈ month, ∃ number, readMonth text = .ok number := by
  cases month with
  | none => exact iff_of_true ⟨[], rfl⟩ nofun
  | some text =>
      rw [monthCondition, exists_bind_pure_eq_ok_iff]
      simp

theorem exists_yearCondition_iff {start : Reference} {year : Option String} :
    (∃ conditions, yearCondition start year = .ok conditions) ↔
      ∀ text ∈ year, ∃ number, readYear text = .ok number := by
  cases year with
  | none => exact iff_of_true ⟨[], rfl⟩ nofun
  | some text =>
      rw [yearCondition, exists_bind_pure_eq_ok_iff]
      simp

theorem exists_monthCondition {range : DateRange} (written : IsWritten range)
    (start : Reference) :
    ∃ conditions, monthCondition start (nonempty? range.specificMonth) = .ok conditions := by
  rw [exists_monthCondition_iff]
  intro text given
  obtain ⟨number, first, last, rfl⟩ := written.month text (eq_some_of_nonempty? given)
  exact exists_readMonth first last

theorem exists_yearCondition {range : DateRange} (written : IsWritten range)
    (start : Reference) :
    ∃ conditions, yearCondition start (nonempty? range.specificYear) = .ok conditions := by
  rw [exists_yearCondition_iff]
  intro text given
  obtain ⟨length, digits⟩ := written.year text (eq_some_of_nonempty? given)
  exact exists_readYear length digits

/-- Written ranges have conditions on trips with a start. -/
theorem exists_optionalDateConditions {columns : List Column} {start : Reference}
    (required : startReference columns = .ok start) {range : Option DateRange}
    (written : ∀ given ∈ range, IsWritten given) :
    ∃ conditions, optionalDateConditions columns range = .ok conditions := by
  cases range with
  | none => exact ⟨[], rfl⟩
  | some range =>
      have given : IsWritten range := written range rfl
      rw [optionalDateConditions, dateConditions]
      cases bounds : range.bounds? with
      | some pair =>
          obtain ⟨first, last⟩ := isDateShaped_of_isWritten given bounds
          dsimp only
          rw [checkDate_eq_ok_iff.mpr first, checkDate_eq_ok_iff.mpr last, required]
          exact ⟨_, rfl⟩
      | none =>
          obtain ⟨inMonth, monthMade⟩ := exists_monthCondition given start
          obtain ⟨inYear, yearMade⟩ := exists_yearCondition given start
          dsimp only
          split
          · exact ⟨[], rfl⟩
          · rw [required, ok_bind, monthMade, ok_bind, yearMade]
            exact ⟨_, rfl⟩

end RideQuery.Query
