import RideQuery.Database.Execution
import RideQuery.Proofs.Sql.Opening

/-!
# What reaches a database

A text that does not open as a query is refused without a call.  Any other leads to one
call, unless its limit has too many digits to be written.  Only its opening is looked
at: what is handed over is a single statement exactly if the text is one and no semicolon
is left in front of a limit, and its first word is one of a query up to the letters outside
ASCII that count as cases of others.
-/

namespace RideQuery.Database

open RideQuery.Text RideQuery.Number RideQuery.Sql

/-- What a text that opens as a query and the statement handed over for it have in common. -/
structure IsHandedOver (limit : Option Int) (text statement : List Char) : Prop where
  /-- The statement is the text without its blanks and closing semicolons, limited. -/
  made : statementOf limit text = .ok statement
  /-- Its first word is spelled like one that queries begin with. -/
  spelled : ∃ word ∈ queryWords, Spells word.toList (firstWord statement)
  /-- It is one exactly if the text's first word is in ASCII. -/
  word : IsQueryWord (firstWord statement) ↔ ∀ c ∈ firstWord text, c.toNat < 128
  /-- It is single exactly if the text is, and a limit that is added follows no semicolon. -/
  single : IsSingle statement ↔
    IsSingle text ∧
      (IsLimited limit (trimStatement text) → .plain ';' ∉ pieces (trimStatement text))

/-- The calls that a text and its values may lead to. -/
inductive IsGuarded (limit : Option Int) (text : List Char) (binds : Dict) : List Call → Prop
  /-- The text does not open as a query. -/
  | refused (closed : ¬ OpensAsQuery text) : IsGuarded limit text binds []
  /-- The limit has too many digits to be written. -/
  | unwritten (opens : OpensAsQuery text) (error : NumberError)
      (long : statementOf limit text = .error error) : IsGuarded limit text binds []
  /-- The text opens as a query, and one statement is handed over for it. -/
  | handed (opens : OpensAsQuery text) (statement : List Char)
      (handedOver : IsHandedOver limit text statement) :
      IsGuarded limit text binds [{ text := String.ofList statement, binds }]

theorem isHandedOver_of_statementOf {limit : Option Int} {text statement : List Char}
    (made : statementOf limit text = .ok statement) (opens : OpensAsQuery text) :
    IsHandedOver limit text statement := by
  obtain ⟨same, word, member, spells⟩ := firstWord_statementOf made opens
  constructor
  · exact made
  · rw [same]
    exact ⟨word, member, spells⟩
  · rw [same]
    exact isQueryWord_iff_of_spells member spells
  · exact isSingle_statementOf_iff made

/-- A text that does not open as a query is refused, whatever database it is for. -/
theorem run_of_not_opensAsQuery (engine : Engine) {sql : String} (binds : Dict)
    (limit : Option Int) (closed : ¬ OpensAsQuery sql.toList) :
    run engine sql binds limit = { result := .ok (.failed refusalMessage), calls := [] } := by
  rw [run, consultation, if_neg]
  · rfl
  · rwa [isReadOnly_iff]

theorem isGuarded_run (engine : Engine) (sql : String) (binds : Dict) (limit : Option Int) :
    IsGuarded limit sql.toList binds (run engine sql binds limit).calls := by
  by_cases opens : OpensAsQuery sql.toList
  · rw [run, consultation, if_pos ((isReadOnly_iff _).mpr opens), callFor]
    cases made : statementOf limit sql.toList with
    | error error => exact .unwritten opens error made
    | ok statement => exact .handed opens statement (isHandedOver_of_statementOf made opens)
  · rw [run_of_not_opensAsQuery engine binds limit opens]
    exact .refused opens

/--
Running a text leads to no call if it does not open as a query, and else to one for
its trimmed and limited form; running a text with placeholders leads to those for the
text with its placeholders named, or to none if they cannot be named.
-/
theorem calls_isGuarded (engine : Engine) (limit : Option Int) :
    (∀ (sql : String) (binds : Dict),
      IsGuarded limit sql.toList binds (run engine sql binds limit).calls ∧
        (¬ OpensAsQuery sql.toList →
          run engine sql binds limit =
            { result := .ok (.failed refusalMessage), calls := [] })) ∧
    ∀ (sql : String) (parameters : List Value),
      (∃ error, bindNames defaultStem sql.toList parameters = .error error ∧
        (execute engine limit sql parameters).calls = []) ∨
      ∃ named, bindNames defaultStem sql.toList parameters = .ok named ∧
        IsGuarded limit named.text named.binds (execute engine limit sql parameters).calls := by
  constructor
  · intro sql binds
    exact ⟨isGuarded_run engine sql binds limit, run_of_not_opensAsQuery engine binds limit⟩
  · intro sql parameters
    unfold execute positional
    cases bound : bindNames defaultStem sql.toList parameters with
    | error error => exact .inl ⟨error, rfl, rfl⟩
    | ok named =>
        refine .inr ⟨named, rfl, ?_⟩
        dsimp only
        have guarded := isGuarded_run engine (String.ofList named.text) named.binds limit
        rw [String.toList_ofList] at guarded
        rw [Dialogue.hold_map]
        exact guarded

/-- A second statement behind a selection reaches the database. -/
theorem not_isSingle_deletion :
    (run (fun _ => .ok { columns := [], rows := [] }) "SELECT 1; DELETE FROM trips" [] none).calls =
        [{ text := "SELECT 1; DELETE FROM trips", binds := [] }] ∧
      ¬ IsSingle "SELECT 1; DELETE FROM trips".toList := by
  constructor
  · rfl
  · intro single
    have cut : pieces "SELECT 1; DELETE FROM trips".toList =
        "SELECT 1".toList.map .plain ++ .plain ';' :: " DELETE FROM trips".toList.map .plain := by
      decide +kernel
    have ending := single _ _ cut (.plain 'D') (by decide)
    revert ending
    simp [Piece.IsEnding]
    decide

end RideQuery.Database
