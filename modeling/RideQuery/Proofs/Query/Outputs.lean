import RideQuery.Proofs.Query.Names

/-!
# Names of the SELECT list

Every member of the SELECT list has a name in the rows of the result: the label that it is
given, or else the name of its column.  The aggregate comes last, and its name tells the
aggregation.  Before it come the columns that are grouped by, which only a question for
the most of something has.
-/

namespace RideQuery

namespace Query

open RideQuery.Schema

variable {columns : List Column} {intent : Intent}

/-- The name of a member of the SELECT list in a row, if it has one. -/
def Output.name? (output : Output) : Option String :=
  match output.label, output.expression with
  | some label, _ => some label
  | none, .column reference => some reference.name
  | none, _ => none

/-- The name of an aggregate. -/
def aggregateName : Aggregation → String
  | .avg => averageLabel
  | .sum => distanceLabel
  | .max => departuresLabel
  | .count => countLabel
  | .min => countLabel

theorem IsAggregate.name?_eq {aggregation : Aggregation} {output : Output}
    (aggregate : IsAggregate columns aggregation output) :
    output.name? = some (aggregateName aggregation) := by
  cases aggregate <;> rfl

/-- A group goes by the name of its column, or as the station of a ranking. -/
theorem name?_groupOutput (aggregation : Aggregation) (column : Column) :
    (groupOutput aggregation column).name? = some stationLabel ∨
      (groupOutput aggregation column).name? = some column.name := by
  rw [groupOutput]
  split
  · exact .inl rfl
  · exact .inr rfl

/-- The SELECT list of a query: the columns that are grouped by, and then the aggregate. -/
theorem exists_outputs_of_buildWith {wellFormed : List Char → Bool} {generated : Generated}
    (built : buildWith wellFormed intent.toDraft columns = .ok generated) :
    ∃ groups aggregate,
      groupColumns columns intent.aggregation intent.groupBy = .ok groups ∧
      IsAggregate columns intent.aggregation aggregate ∧
      generated.statement.outputs =
        groups.map (groupOutput intent.aggregation) ++ [aggregate] := by
  obtain ⟨bound, bindStep, _, statement_eq, _⟩ := exists_bound_of_buildWith built
  obtain ⟨layout, conditions, dates, isOf, _, _, own⟩ :=
    Layout.exists_of_bind bindStep
  rw [statement_eq, own]
  exact ⟨layout.groups, layout.aggregate, isOf.groups, isOf.isAggregate, rfl⟩

end Query

end RideQuery
