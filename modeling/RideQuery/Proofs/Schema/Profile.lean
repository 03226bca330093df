import RideQuery.Proofs.Text.Search
import RideQuery.Schema.Profile

/-!
# Columns that are found by markers

A marker is met wherever it occurs, also in the middle of a longer word.  What is found in
a catalog is the first column of the kind that is looked for.
-/

namespace RideQuery.Schema

open RideQuery.Text

theorem hasMarker_iff {markers : List String} {text : List Char} :
    hasMarker markers text = true ↔ ∃ marker ∈ markers, marker.toList <:+: text := by
  simp [hasMarker, occursIn_iff]

/-! ## First columns -/

variable {columns : List Column} {kind : Column → Prop} {column other : Column}

/-- The first column of a catalog that is of a kind. -/
structure IsFirst (kind : Column → Prop) (columns : List Column) (column : Column) : Prop where
  own : kind column
  ahead : ∃ front behind, columns = front ++ column :: behind ∧ ∀ other ∈ front, ¬kind other

theorem find?_eq_some_iff_isFirst {test : Column → Bool}
    (decides : ∀ column, test column = true ↔ kind column) :
    columns.find? test = some column ↔ IsFirst kind columns column := by
  rw [List.find?_eq_some_iff_append]
  constructor
  · rintro ⟨own, front, behind, same, others⟩
    refine ⟨(decides column).mp own, front, behind, same, ?_⟩
    intro other inside isOther
    have passed := (decides other).mpr isOther
    simpa [passed] using others other inside
  · rintro ⟨own, front, behind, same, others⟩
    refine ⟨(decides column).mpr own, front, behind, same, ?_⟩
    intro other inside
    simpa [← decides] using others other inside

theorem exists_isFirst (member : column ∈ columns) (own : kind column) :
    ∃ first, IsFirst kind columns first := by
  classical
  have decides : ∀ column, decide (kind column) = true ↔ kind column := fun _ => decide_eq_true_iff
  have found : (columns.find? fun column => decide (kind column)).isSome = true := by
    rw [List.find?_isSome]
    exact ⟨column, member, (decides column).mpr own⟩
  rcases Option.isSome_iff_exists.mp found with ⟨first, search⟩
  exact ⟨first, (find?_eq_some_iff_isFirst decides).mp search⟩

namespace IsFirst

theorem mem (first : IsFirst kind columns column) : column ∈ columns := by
  rcases first.ahead with ⟨front, behind, rfl, _⟩
  simp

theorem unique (first : IsFirst kind columns column) (again : IsFirst kind columns other) :
    column = other := by
  classical
  have decides : ∀ column, decide (kind column) = true ↔ kind column := fun _ => decide_eq_true_iff
  rw [← find?_eq_some_iff_isFirst decides] at first again
  exact Option.some.inj (first.symm.trans again)

/-- The first column of a kind is also the first of every narrower kind that it is of. -/
theorem narrow {narrower : Column → Prop} (first : IsFirst kind columns column)
    (wider : ∀ column, narrower column → kind column) (own : narrower column) :
    IsFirst narrower columns column := by
  rcases first.ahead with ⟨front, behind, same, others⟩
  refine ⟨own, front, behind, same, ?_⟩
  intro other inside narrow
  exact others other inside (wider other narrow)

end IsFirst

/-! ## Moments of a trip -/

/-- Columns of the trips that hold a moment, and whose names hold a marker. -/
structure IsMoment (marker : String) (column : Column) : Prop where
  table : column.table = factTable
  name : marker.toList <:+: column.lowerName
  type : ∃ type ∈ timeTypes, type.toList <:+: column.lowerType

theorem factColumn_eq_some_iff {marker : String} :
    factColumn [marker] timeTypes columns = some column ↔
      IsFirst (IsMoment marker) columns column := by
  apply find?_eq_some_iff_isFirst
  intro column
  rw [Bool.and_eq_true, Bool.and_eq_true, Column.inTable, beq_iff_eq, Column.named,
    Column.typed, hasMarker_iff, hasMarker_iff]
  constructor
  · rintro ⟨table, ⟨marker, member, name⟩, type⟩
    obtain rfl := List.mem_singleton.mp member
    exact ⟨table, name, type⟩
  · rintro ⟨table, name, type⟩
    exact ⟨table, ⟨marker, List.mem_singleton_self _, name⟩, type⟩

/-- Moments that are marked as one side of a trip or as the other. -/
def IsEitherMoment (column : Column) : Prop :=
  IsMoment "start" column ∨ IsMoment "end" column

/-- Catalogs whose first moment of either side is marked as both sides. -/
def HasTwofoldMoment (columns : List Column) : Prop :=
  ∃ column, IsFirst IsEitherMoment columns column ∧
    IsMoment "start" column ∧ IsMoment "end" column

/--
The two sides of a trip are one column exactly if the first moment of either side is marked
as both: two columns of one name are marked alike, and so the first of them is both.
-/
theorem name_eq_iff_hasTwofoldMoment {first last : Column}
    (isStart : IsFirst (IsMoment "start") columns first)
    (isEnd : IsFirst (IsMoment "end") columns last) :
    last.name = first.name ↔ HasTwofoldMoment columns := by
  constructor
  · intro same
    have lower : last.lowerName = first.lowerName := by simp only [Column.lowerName, same]
    have startToo : IsMoment "start" last :=
      ⟨isEnd.own.table, lower ▸ isStart.own.name, isEnd.own.type⟩
    have endToo : IsMoment "end" first :=
      ⟨isStart.own.table, lower ▸ isEnd.own.name, isStart.own.type⟩
    have either : IsEitherMoment first := .inl isStart.own
    rcases exists_isFirst isStart.mem either with ⟨column, isEither⟩
    refine ⟨column, isEither, ?_⟩
    cases isEither.own with
    | inl start =>
        obtain rfl := (isEither.narrow (fun _ => Or.inl) start).unique isStart
        exact ⟨start, endToo⟩
    | inr finish =>
        obtain rfl := (isEither.narrow (fun _ => Or.inr) finish).unique isEnd
        exact ⟨startToo, finish⟩
  · rintro ⟨column, isEither, start, finish⟩
    rw [← (isEither.narrow (fun _ => Or.inl) start).unique isStart,
      ← (isEither.narrow (fun _ => Or.inr) finish).unique isEnd]

end RideQuery.Schema
