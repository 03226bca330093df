/-!
# Dialogues

Statements are executed by others: a query by an executor, and a text of SQL by a database.
What is to be executed is handed over in a dialogue, which goes on with the answer.  A
dialogue has no other way to those who answer it, so that holding it tells every call that
was made, in order, along with the result.
-/

namespace RideQuery

/-- A result with the calls that were made for it, in order. -/
structure Traced (κ α : Type) where
  result : α
  calls : List κ

/-- A computation that makes calls and goes on with the answers to them. -/
inductive Dialogue (κ ρ α : Type) where
  /-- There is nothing more to ask. -/
  | done (result : α)
  /-- A call is made, and what comes next depends on the answer. -/
  | ask (call : κ) (next : ρ → Dialogue κ ρ α)

namespace Dialogue

variable {κ ρ α β : Type}

/-- A single call, whose answer is the result. -/
def call (made : κ) : Dialogue κ ρ ρ :=
  .ask made .done

/-- A dialogue of whose result something else is made. -/
def map (image : α → β) : Dialogue κ ρ α → Dialogue κ ρ β
  | .done result => .done (image result)
  | .ask made next => .ask made fun answer => (next answer).map image

/-- Holds a dialogue with whoever answers the calls. -/
def hold (answerer : κ → ρ) : Dialogue κ ρ α → Traced κ α
  | .done result => { result, calls := [] }
  | .ask made next =>
    let rest := (next (answerer made)).hold answerer
    { result := rest.result, calls := made :: rest.calls }

variable (answerer : κ → ρ)

@[simp]
theorem hold_done (result : α) :
    (done result : Dialogue κ ρ α).hold answerer = { result, calls := [] } :=
  rfl

@[simp]
theorem hold_call (made : κ) :
    (call made).hold answerer = { result := answerer made, calls := [made] } :=
  rfl

/-- What is made of a result leaves the calls as they are. -/
@[simp]
theorem hold_map (image : α → β) (dialogue : Dialogue κ ρ α) :
    (dialogue.map image).hold answerer =
      { result := image (dialogue.hold answerer).result
        calls := (dialogue.hold answerer).calls } := by
  induction dialogue with
  | done result => rfl
  | ask made next inductionHypothesis =>
      simp only [map, hold, inductionHypothesis]

end Dialogue

end RideQuery
