import RideQuery.Proofs.Calendar.Order
import RideQuery.Proofs.Query.Dates
import RideQuery.Proofs.Query.Scope

/-!
# Dates in statements

The bounds of a date range are written into a statement between quotes.  A text that is not
shaped like a date is refused, but the shape leaves room for more than dates: the digits may
be of any script, the month and the day need not exist, and a line break may stand at the end.
-/

namespace RideQuery

open RideQuery.Text RideQuery.Number RideQuery.Schema RideQuery.Calendar

/-! ## Texts of dates -/

namespace Calendar

/-- Texts that dates are written as. -/
def IsIso (text : String) : Prop :=
  ∃ date : Date, date.iso = text

/-- The fields of a text that looks like a date. -/
structure DateFields where
  year : List Char
  month : List Char
  day : List Char
  /-- Whether a line break ends the text. -/
  broken : Bool

namespace DateFields

variable {fields : DateFields}

/-- What stands behind the day. -/
def ending (fields : DateFields) : List Char :=
  if fields.broken then ['\n'] else []

/-- Fields joined by hyphens. -/
def text (fields : DateFields) : List Char :=
  fields.year ++ '-' :: (fields.month ++ '-' :: (fields.day ++ fields.ending))

/-- Fields of four, two and two digits of any script. -/
structure AreDigits (fields : DateFields) : Prop where
  year : fields.year.length = 4
  month : fields.month.length = 2
  day : fields.day.length = 2
  digits : ∀ c ∈ fields.year ++ fields.month ++ fields.day, isDecimalDigit c = true

/-- Fields of ASCII digits that name a date and have nothing behind them. -/
structure AreReal (fields : DateFields) : Prop where
  unbroken : fields.broken = false
  ascii : ∀ c ∈ fields.year ++ fields.month ++ fields.day, c.isDigit = true
  valid : Exists (asciiValue fields.year) (asciiValue fields.month) (asciiValue fields.day)

end DateFields

namespace Date

/-- A run of ASCII digits is the number that it stands for, padded to its length. -/
theorem padded_asciiValue {digits : List Char} (positive : 0 < digits.length)
    (ascii : ∀ c ∈ digits, c.isDigit = true) :
    padded digits.length (asciiValue digits) = digits := by
  have length := length_padded positive (asciiValue_lt ascii)
  have less := lt_iff_asciiValue_lt length (fun c => isDigit_of_mem_padded) ascii
  have greater := lt_iff_asciiValue_lt length.symm ascii (fun c => isDigit_of_mem_padded)
  rw [asciiValue_padded] at less greater
  apply List.le_antisymm
  · exact List.not_lt.mp fun before => Nat.lt_irrefl _ (greater.mp before)
  · exact List.not_lt.mp fun before => Nat.lt_irrefl _ (less.mp before)

end Date

namespace DateFields

variable {fields : DateFields}

theorem ending_eq_nil_iff : fields.ending = [] ↔ fields.broken = false := by
  rw [ending]
  cases fields.broken <;> simp

/-- Fields of the lengths that a date is written with are told apart one by one. -/
theorem AreDigits.isoChars_eq_iff (digits : fields.AreDigits) {date : Date} :
    date.isoChars = fields.text ↔
      Date.padded 4 date.year = fields.year ∧ Date.padded 2 date.month = fields.month ∧
        Date.padded 2 date.day = fields.day ∧ fields.broken = false := by
  obtain ⟨yearLength, monthLength, dayLength, _⟩ := digits
  obtain ⟨yearFits, monthFits, dayFits⟩ := date.fields_lt
  have yearPadded : (Date.padded 4 date.year).length = 4 :=
    Date.length_padded (by decide) yearFits
  have monthPadded : (Date.padded 2 date.month).length = 2 :=
    Date.length_padded (by decide) monthFits
  have dayPadded : (Date.padded 2 date.day).length = 2 := Date.length_padded (by decide) dayFits
  rw [← ending_eq_nil_iff, Date.isoChars, text]
  simp only [List.append_assoc, List.cons_append]
  constructor
  · intro same
    obtain ⟨year, same⟩ := List.append_inj same (yearPadded.trans yearLength.symm)
    obtain ⟨month, same⟩ :=
      List.append_inj (List.cons.inj same).2 (monthPadded.trans monthLength.symm)
    have day : Date.padded 2 date.day = fields.day ++ fields.ending := (List.cons.inj same).2
    have none : fields.ending = [] := by
      rw [day, List.length_append, dayLength] at dayPadded
      exact List.length_eq_zero_iff.mp (by omega)
    rw [none, List.append_nil] at day
    exact ⟨year, month, day, none⟩
  · rintro ⟨year, month, day, none⟩
    rw [year, month, day, none, List.append_nil]

/-- Fields joined by hyphens are the text of a date exactly if they are real. -/
theorem AreDigits.isIso_iff (digits : fields.AreDigits) :
    IsIso (String.ofList fields.text) ↔ fields.AreReal := by
  constructor
  · rintro ⟨date, written⟩
    obtain ⟨year, month, day, unbroken⟩ :=
      digits.isoChars_eq_iff.mp (String.ofList_injective written)
    refine ⟨unbroken, ?_, ?_⟩
    · rw [← year, ← month, ← day]
      simp only [List.mem_append]
      rintro c ((member | member) | member)
      all_goals exact Date.isDigit_of_mem_padded member
    · rw [← year, ← month, ← day, Date.asciiValue_padded, Date.asciiValue_padded,
        Date.asciiValue_padded]
      exact date.valid
  · rintro ⟨unbroken, ascii, valid⟩
    rw [List.forall_mem_append, List.forall_mem_append] at ascii
    obtain ⟨⟨yearAscii, monthAscii⟩, dayAscii⟩ := ascii
    have yearLength := digits.year
    have monthLength := digits.month
    have dayLength := digits.day
    have year := Date.padded_asciiValue (by omega) yearAscii
    have month := Date.padded_asciiValue (by omega) monthAscii
    have day := Date.padded_asciiValue (by omega) dayAscii
    rw [yearLength] at year
    rw [monthLength] at month
    rw [dayLength] at day
    exact ⟨⟨_, _, _, valid⟩,
      congrArg String.ofList (digits.isoChars_eq_iff.mpr ⟨year, month, day, unbroken⟩)⟩

end DateFields

end Calendar

/-- An intent without its dates. -/
def Intent.undated (intent : Intent) : Intent :=
  { intent with dateRange := none }

namespace Query

variable {columns : List Column} {intent : Intent}

/-! ## Shapes -/

/-- Texts that look like dates, with digits of any script and a line break at most. -/
def IsDateLike (text : String) : Prop :=
  ∃ fields : DateFields, fields.AreDigits ∧ fields.text = text.toList

theorem exists_dropLineEnd_append (text : List Char) :
    ∃ broken : Bool, text = dropLineEnd text ++ if broken then ['\n'] else [] := by
  by_cases last : text.getLast? = some '\n'
  · refine ⟨true, ?_⟩
    rw [dropLineEnd, if_pos (beq_iff_eq.mpr last)]
    exact (List.dropLast_append_getLast? _ last).symm
  · refine ⟨false, ?_⟩
    rw [dropLineEnd_eq_self last]
    exact (List.append_nil text).symm

/-- The texts that pass for dates are those that look like dates. -/
theorem isDateShaped_iff {text : String} : isDateShaped text = true ↔ IsDateLike text := by
  constructor
  · intro shaped
    obtain ⟨broken, own⟩ := exists_dropLineEnd_append text.toList
    unfold isDateShaped at shaped
    split at shaped
    · rename_i y₁ y₂ y₃ y₄ m₁ m₂ d₁ d₂ kept
      refine ⟨⟨[y₁, y₂, y₃, y₄], [m₁, m₂], [d₁, d₂], broken⟩, ⟨rfl, rfl, rfl, ?_⟩, ?_⟩
      · exact List.all_eq_true.mp shaped
      · rw [own, kept]
        rfl
    · contradiction
  · rintro ⟨⟨year, month, day, broken⟩, ⟨yearLength, monthLength, dayLength, digits⟩, own⟩
    obtain ⟨y₁, y₂, y₃, y₄, rfl⟩ := List.length_eq_four.mp yearLength
    obtain ⟨m₁, m₂, rfl⟩ := List.length_eq_two.mp monthLength
    obtain ⟨d₁, d₂, rfl⟩ := List.length_eq_two.mp dayLength
    have kept : dropLineEnd text.toList =
        [y₁, y₂, y₃, y₄, '-', m₁, m₂, '-', d₁, d₂] := by
      rw [← own]
      cases broken with
      | true => rfl
      | false =>
          have last : d₂ ≠ '\n' := by
            rintro rfl
            exact absurd (digits '\n' (by simp)) (by decide)
          exact dropLineEnd_eq_self (by simpa [DateFields.text, DateFields.ending] using last)
    rw [isDateShaped, kept]
    exact List.all_eq_true.mpr digits

theorem checkDate_of_not_isDateLike {text : String} (other : ¬IsDateLike text) :
    checkDate text = refuse (.malformedDate text) := by
  rw [checkDate, if_neg (mt isDateShaped_iff.mp other)]

theorem checkDate_of_isDateLike {text : String} (like : IsDateLike text) :
    checkDate text = .ok () :=
  checkDate_eq_ok_iff.mpr (isDateShaped_iff.mpr like)

/-! ## Statements with dates -/

/-- A bound statement under further conditions. -/
def Bound.under (bound : Bound) (conditions : List Condition) : Bound :=
  { bound with
    statement := { bound.statement with
      conditions := bound.statement.conditions ++ conditions } }

/-- An intent is bound as it is without its dates, and the conditions on these come last. -/
theorem bind_eq_bind_undated (columns : List Column) (intent : Intent) :
    bind intent.toDraft columns = (do
      let bound ← bind intent.undated.toDraft columns
      let dates ← optionalDateConditions columns intent.dateRange
      pure (bound.under dates)) := by
  have none : optionalDateConditions columns intent.undated.toDraft.dateRange = pure [] := rfl
  unfold bind
  simp only [none, bind_assoc, pure_bind, List.append_nil]
  rfl

variable {range : DateRange} {first last : String}

theorem dateConditions_of_bounds (bounds : range.bounds? = some (first, last)) :
    dateConditions columns range = (do
      checkDate first
      checkDate last
      pure [.between (← startReference columns) first last]) := by
  rw [dateConditions, bounds]

theorem mem_bounds_text {start : Reference} {text : String} (member : text ∈ [first, last]) :
    quotedLiteral text <:+: (Condition.between start first last).text := by
  rcases List.mem_pair.mp member with rfl | rfl
  · unfold Condition.text
    simp only [List.append_assoc]
    exact (List.infix_append' ..).trans (List.infix_append_right ..)
  · exact (List.suffix_append _ _).isInfix

/--
The bounds of a date range stand in the statement as they were given, and each of them looks
like a date.  Such a text is that of a date exactly if it has ASCII digits, no line break
behind them, and a month and a day that exist.  If one of the bounds does not look like a
date, the intent is refused for the first such bound, unless it fails without its dates.
-/
theorem isDateLike_of_buildWith {wellFormed : List Char → Bool}
    (given : intent.dateRange = some range) (bounds : range.bounds? = some (first, last)) :
    (∀ generated, buildWith wellFormed intent.toDraft columns = .ok generated →
      ∃ start, startReference columns = .ok start ∧
        Condition.between start first last ∈ generated.statement.conditions ∧
        ∀ text ∈ [first, last], quotedLiteral text <:+: generated.sql.toList ∧
          ∃ fields : DateFields, fields.AreDigits ∧ fields.text = text.toList ∧
            (IsIso text ↔ fields.AreReal)) ∧
    (¬IsDateLike first → buildWith wellFormed intent.toDraft columns =
      (bind intent.undated.toDraft columns >>= fun _ => refuse (.malformedDate first))) ∧
    (IsDateLike first → ¬IsDateLike last → buildWith wellFormed intent.toDraft columns =
      (bind intent.undated.toDraft columns >>= fun _ => refuse (.malformedDate last))) := by
  have dated : optionalDateConditions columns intent.dateRange = (do
      checkDate first
      checkDate last
      pure [.between (← startReference columns) first last]) := by
    rw [given]
    exact dateConditions_of_bounds bounds
  refine ⟨?_, ?_, ?_⟩
  · intro generated built
    obtain ⟨bound, bindStep, _, own, _⟩ := exists_bound_of_buildWith built
    rw [bind_eq_bind_undated, dated] at bindStep
    obtain ⟨undated, _, rest⟩ := bind_eq_ok_iff.mp bindStep
    obtain ⟨dates, made, done⟩ := bind_eq_ok_iff.mp rest
    obtain ⟨_, firstChecked, rest⟩ := bind_eq_ok_iff.mp made
    obtain ⟨_, lastChecked, rest⟩ := bind_eq_ok_iff.mp rest
    obtain ⟨start, required, between⟩ := bind_eq_ok_iff.mp rest
    obtain rfl := pure_eq_ok_iff.mp between
    obtain rfl := pure_eq_ok_iff.mp done
    have inside : Condition.between start first last ∈ generated.statement.conditions := by
      rw [own]
      exact List.mem_append_right _ (List.mem_singleton.mpr rfl)
    refine ⟨start, required, inside, ?_⟩
    intro text member
    have like : IsDateLike text := by
      rw [← isDateShaped_iff]
      rcases List.mem_pair.mp member with rfl | rfl
      · exact checkDate_eq_ok_iff.mp firstChecked
      · exact checkDate_eq_ok_iff.mp lastChecked
    obtain ⟨fields, digits, written⟩ := like
    refine ⟨?_, fields, digits, written, ?_⟩
    · rw [Generated.sql, String.toList_ofList]
      exact (mem_bounds_text member).trans (Statement.condition_infix_text inside)
    · rw [← digits.isIso_iff, written, String.ofList_toList]
  · intro other
    rw [buildWith, bind_eq_bind_undated, dated, checkDate_of_not_isDateLike other]
    cases bind intent.undated.toDraft columns <;> rfl
  · intro like other
    rw [buildWith, bind_eq_bind_undated, dated, checkDate_of_isDateLike like,
      checkDate_of_not_isDateLike other]
    cases bind intent.undated.toDraft columns <;> rfl

/-- A range from a day that does not exist to one that a line break follows. -/
def imaginaryIntent : Intent :=
  { dateRange := some { startDate := some "2025-02-30", endDate := some "2025-06-07\n" } }

/-- It has a query. -/
theorem map_sql_imaginary :
    (buildWith Sql.Grammar.accepts imaginaryIntent.toDraft sampleColumns).map Generated.sql =
      .ok ("SELECT COUNT(*) AS total_count FROM trips t " ++
        "WHERE DATE(t.started_at) BETWEEN '2025-02-30' AND '2025-06-07\n'") := by
  decide +kernel

/-- Its bounds stand in the statement as they are. -/
theorem isDateLike_of_buildWith_imaginary :
    ∃ generated, buildWith Sql.Grammar.accepts imaginaryIntent.toDraft sampleColumns =
        .ok generated ∧
      ∃ start, startReference sampleColumns = .ok start ∧
        Condition.between start "2025-02-30" "2025-06-07\n" ∈ generated.statement.conditions ∧
        ∀ text ∈ ["2025-02-30", "2025-06-07\n"], quotedLiteral text <:+: generated.sql.toList ∧
          ∃ fields : DateFields, fields.AreDigits ∧ fields.text = text.toList ∧
            (IsIso text ↔ fields.AreReal) := by
  obtain ⟨generated, built, _⟩ := map_eq_ok_iff.mp map_sql_imaginary
  exact ⟨generated, built, (isDateLike_of_buildWith rfl rfl).1 generated built⟩

/-- Neither of these bounds is the text of a date. -/
theorem not_isIso_imaginary :
    (∃ generated, buildWith Sql.Grammar.accepts imaginaryIntent.toDraft sampleColumns =
        .ok generated ∧
      generated.sql = "SELECT COUNT(*) AS total_count FROM trips t " ++
        "WHERE DATE(t.started_at) BETWEEN '2025-02-30' AND '2025-06-07\n'") ∧
      ¬IsIso "2025-02-30" ∧ ¬IsIso "2025-06-07\n" := by
  refine ⟨map_eq_ok_iff.mp map_sql_imaginary, ?_, ?_⟩
  · have digits : DateFields.AreDigits ⟨"2025".toList, "02".toList, "30".toList, false⟩ :=
      ⟨rfl, rfl, rfl, by decide⟩
    intro written
    have real := digits.isIso_iff.mp written
    exact absurd real.valid (by decide)
  · have digits : DateFields.AreDigits ⟨"2025".toList, "06".toList, "07".toList, true⟩ :=
      ⟨rfl, rfl, rfl, by decide⟩
    intro written
    have real := digits.isIso_iff.mp written
    exact absurd real.unbroken (by decide)

end Query

end RideQuery
