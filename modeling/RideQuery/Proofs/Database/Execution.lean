import RideQuery.Database.Execution
import RideQuery.Proofs.Sql.Guard
import RideQuery.Proofs.Sql.Renaming

/-!
# Execution of numbered statements

A selection whose placeholders are numbered in order is handed to a database exactly
once.  Its placeholders have become names, each bound to the parameter with its number,
and nothing else about it has changed.
-/

namespace RideQuery.Sql

open RideQuery.Text RideQuery.Number

/-! ## Segments -/

/-- A name ends as firmly as a number, so naming leaves the end of a text firm. -/
theorem firm_interleaved {number : Nat} {first : List Char} {rest : List (List Char)}
    (firm : Firm (interleaved numberMark number first rest)) :
    Firm (interleaved nameMark number first rest) := by
  induction rest generalizing number first with
  | nil => exact firm
  | cons next rest inductionHypothesis =>
      have digits : numeral number ≠ [] := toList_repr_ne_nil number
      have solid : Firm (numeral number) := (solid_of_numberText (.repr number)).firm
      have mark : Firm (nameMark number) := by
        rw [← nameDigits_numeral, nameDigits, ← List.cons_append]
        exact .prepend _ digits solid
      have nonempty : nameMark number ≠ [] := List.cons_ne_nil _ _
      exact (Firm.prepend first nonempty mark).append (inductionHypothesis firm.of_append)

/-- Text without dollar signs in front of the first mark belongs to the first segment. -/
theorem exists_first_eq {front left first : List Char} {number : Nat} {rest : List (List Char)}
    (inert : Inert front) (segments : front ++ left = interleaved numberMark number first rest) :
    ∃ behind, first = front ++ behind := by
  cases rest with
  | nil => exact ⟨left, segments.symm⟩
  | cons next rest =>
      rw [interleaved, List.append_assoc, List.append_eq_append_iff] at segments
      rcases segments with ⟨behind, first_eq, _⟩ | ⟨overlap, front_eq, marks⟩
      · exact ⟨behind, first_eq⟩
      · cases overlap with
        | nil => exact ⟨[], by simpa using front_eq.symm⟩
        | cons c overlap =>
            have dollar : c = '$' := (List.cons.inj marks).1.symm
            have member : '$' ∈ front := by simp [front_eq, dollar]
            exact absurd rfl (inert '$' member).2

end RideQuery.Sql

namespace RideQuery.Database

open RideQuery.Text RideQuery.Number RideQuery.Sql

/-! ## Execution -/

/-- A firm selection reaches a database as it is. -/
theorem run_selection (engine : Engine) {rest : List Char} (binds : Dict)
    (firm : Firm ("SELECT ".toList ++ rest)) :
    run engine (String.ofList ("SELECT ".toList ++ rest)) binds none =
      { result :=
          settle (engine { text := String.ofList ("SELECT ".toList ++ rest), binds := binds })
        calls := [{ text := String.ofList ("SELECT ".toList ++ rest), binds := binds }] } := by
  have trimmed : trimStatement ("SELECT ".toList ++ rest) = "SELECT ".toList ++ rest :=
    trimStatement_eq_self (by simp; decide) firm
  rw [run, consultation, callFor, String.toList_ofList, if_pos (isReadOnly_select firm),
    statementOf_none, trimmed]
  rfl

/-- The call of a numbered text: its placeholders are named, and the names are bound. -/
def namedCall (first : List Char) (rest : List (List Char)) (parameters : List Value) : Call :=
  { text := String.ofList (interleaved nameMark 1 first rest)
    binds := numberedBinds parameters }

/--
A numbered selection is executed by one call, in which its placeholders are named and
their names stand for the parameters.
-/
theorem execute_of_numbered {text left : List Char} {parameters : List Value} (engine : Engine)
    (numbered : placeholderDigits text = (List.range' 1 parameters.length).map numeral)
    (short : ∀ number ∈ List.range' 1 parameters.length, (numeral number).length ≤ maxDigits)
    (selects : text = "SELECT ".toList ++ left) (firm : Firm text) :
    ∃ first rest, rest.length = parameters.length ∧
      text = interleaved numberMark 1 first rest ∧
      execute engine none (String.ofList text) parameters =
        { result := rowsOf (settle (engine (namedCall first rest parameters)))
          calls := [namedCall first rest parameters] } := by
  obtain ⟨first, rest, length, segments, named⟩ := bindNames_of_numbered numbered short
  refine ⟨first, rest, length, segments, ?_⟩
  obtain ⟨behind, rfl⟩ := exists_first_eq (by decide) (selects.symm.trans segments)
  have namedFirm : Firm (interleaved nameMark 1 ("SELECT ".toList ++ behind) rest) :=
    firm_interleaved (segments ▸ firm)
  rw [interleaved_append] at namedFirm
  rw [execute, positional, String.toList_ofList, named]
  simp only [namedCall, interleaved_append]
  rw [Dialogue.hold_map]
  change ({ result := rowsOf (run engine _ _ none).result
            calls := (run engine _ _ none).calls } : Traced Call _) = _
  rw [run_selection engine _ namedFirm]

end RideQuery.Database
