import RideQuery.Proofs.Database.Guard
import RideQuery.Proofs.Sql.Limit

/-!
# Limits that reach a database

A limit on the number of rows is added to a text that opens as a query, unless the keyword
stands in it between two spaces.  The statement that is handed over is limited once exactly
if that is not misjudged and the limit can be written.
-/

namespace RideQuery.Database

open RideQuery.Number RideQuery.Sql

/-- The calls that a trimmed text leads to under a limit. -/
inductive IsHandedLimited (limit : Int) (text : List Char) (binds : Dict) : List Call → Prop
  /-- The keyword stands between two spaces, and the text is handed over as it is. -/
  | kept (spaced : HasSpacedLimit text) :
      IsHandedLimited limit text binds [{ text := String.ofList text, binds }]
  /-- It does not, and the text is handed over with the limit behind it. -/
  | added (unspaced : ¬ HasSpacedLimit text) (short : digitCount limit.natAbs ≤ maxDigits) :
      IsHandedLimited limit text binds
        [{ text := String.ofList (text ++ limitText limit), binds }]
  /-- The limit has too many digits to be written. -/
  | unwritten (unspaced : ¬ HasSpacedLimit text) (long : maxDigits < digitCount limit.natAbs) :
      IsHandedLimited limit text binds []

theorem calls_eq_singleton_iff {made statement : List Char} {binds : Dict} :
    [({ text := String.ofList made, binds } : Call)] = [{ text := String.ofList statement, binds }] ↔
      made = statement := by
  simp [String.ofList_inj]

/-- What is handed over is limited once, unless the limit is misjudged or cannot be written. -/
theorem IsHandedLimited.exists_isLimitedOnce_iff {limit : Int} {text : List Char} {binds : Dict}
    {calls : List Call} (handed : IsHandedLimited limit text binds calls) :
    (∃ statement, IsLimitedOnce limit text statement ∧
        calls = [{ text := String.ofList statement, binds }]) ↔
      ¬ IsMisjudged text ∧ (LimitsItself text ∨ digitCount limit.natAbs ≤ maxDigits) := by
  rw [isMisjudged_iff, not_not]
  cases handed with
  | kept spaced =>
      simp only [calls_eq_singleton_iff, exists_eq_right', isLimitedOnce_self_iff, spaced, true_iff]
      exact ⟨fun limits => ⟨limits, .inl limits⟩, And.left⟩
  | added unspaced short =>
      simp only [calls_eq_singleton_iff, exists_eq_right', isLimitedOnce_append_iff, unspaced,
        false_iff, short, or_true, and_true]
  | unwritten unspaced long =>
      constructor
      · rintro ⟨statement, -, none⟩
        exact absurd none.symm (List.cons_ne_nil _ _)
      · rintro ⟨same, limits | short⟩
        · exact absurd (same.mpr limits) unspaced
        · omega

theorem isHandedLimited_run (engine : Engine) {sql : String} (binds : Dict) {limit : Int}
    (opens : OpensAsQuery sql.toList) (positive : 1 ≤ limit) :
    IsHandedLimited limit (trimStatement sql.toList) binds
      (run engine sql binds (some limit)).calls := by
  rw [run, consultation, if_pos ((isReadOnly_iff _).mpr opens), callFor, statementOf]
  by_cases spaced : HasSpacedLimit (trimStatement sql.toList)
  · rw [withLimit_of_hasSpacedLimit limit spaced]
    exact .kept spaced
  · rw [withLimit_of_not_hasSpacedLimit (by omega) spaced]
    by_cases short : digitCount limit.natAbs ≤ maxDigits
    · rw [if_pos short]
      exact .added spaced short
    · rw [if_neg short]
      exact .unwritten spaced (Nat.lt_of_not_le short)

/--
What is handed over for a text under a limit goes by the spaces around the keyword.  It is the
text limited once exactly if the text is not misjudged, and a limit it needs can be written.
-/
theorem isLimitedOnce_run_iff (engine : Engine) {sql : String} (binds : Dict) {limit : Int}
    (opens : OpensAsQuery sql.toList) (positive : 1 ≤ limit) :
    IsHandedLimited limit (trimStatement sql.toList) binds
        (run engine sql binds (some limit)).calls ∧
      ((∃ statement, IsLimitedOnce limit (trimStatement sql.toList) statement ∧
          (run engine sql binds (some limit)).calls =
            [{ text := String.ofList statement, binds }]) ↔
        ¬ IsMisjudged (trimStatement sql.toList) ∧
          (LimitsItself (trimStatement sql.toList) ∨ digitCount limit.natAbs ≤ maxDigits)) := by
  have handed := isHandedLimited_run engine binds opens positive
  exact ⟨handed, handed.exists_isLimitedOnce_iff⟩

/-- A database that answers every statement with a table without rows. -/
def emptyEngine : Engine :=
  fun _ => .ok { columns := [], rows := [] }

/-- A text that limits itself behind a literal that speaks of limits. -/
def twiceLimited : String := "(SELECT ' limit ') limit 5;"

theorem isLimitedOnce_run_iff_twiceLimited :
    OpensAsQuery twiceLimited.toList ∧ (1 : Int) ≤ 10 ∧
      IsHandedLimited 10 (trimStatement twiceLimited.toList) []
          (run emptyEngine twiceLimited [] (some 10)).calls ∧
        ((∃ statement, IsLimitedOnce 10 (trimStatement twiceLimited.toList) statement ∧
            (run emptyEngine twiceLimited [] (some 10)).calls =
              [{ text := String.ofList statement, binds := [] }]) ↔
          ¬ IsMisjudged (trimStatement twiceLimited.toList) ∧
            (LimitsItself (trimStatement twiceLimited.toList) ∨
              digitCount (10 : Int).natAbs ≤ maxDigits)) :=
  have opens : OpensAsQuery twiceLimited.toList := (isReadOnly_iff _).mp (by decide +kernel)
  ⟨opens, by decide, isLimitedOnce_run_iff emptyEngine [] opens (by decide)⟩

/-- A text with a line break in front of its limit gets a second one, and a text gets none
that quotes the keyword between spaces. -/
theorem not_isLimitedOnce_lineBreak :
    LimitsItself (trimStatement "SELECT a FROM t\nLIMIT 5".toList) ∧
      (run emptyEngine "SELECT a FROM t\nLIMIT 5" [] (some 10)).calls =
        [{ text := "SELECT a FROM t\nLIMIT 5 LIMIT 10", binds := [] }] ∧
      ¬ LimitsItself (trimStatement "SELECT ' limit '".toList) ∧
      (run emptyEngine "SELECT ' limit '" [] (some 5)).calls =
        [{ text := "SELECT ' limit '", binds := [] }] := by
  refine ⟨by decide +kernel, ?_, by decide +kernel, ?_⟩
  · rfl
  · rfl

end RideQuery.Database
