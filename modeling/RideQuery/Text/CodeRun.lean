/-!
# Runs of code points

Character properties are finite unions of runs of code points.  A property whose
runs are contiguous is a list of pairs of first and last members; a property of
every second letter, as upper case often is, needs a stride as well.
-/

namespace RideQuery.Text

/-- Membership in a union of contiguous runs, both ends included. -/
def inRanges (ranges : List (Nat × Nat)) (code : Nat) : Bool :=
  ranges.any fun range => range.1 ≤ code && code ≤ range.2

/-- The code points `first`, `first + stride`, and so on up to `last`. -/
structure CodeRun where
  first : Nat
  last : Nat
  stride : Nat

namespace CodeRun

/-- Membership in one run. -/
def contains (run : CodeRun) (code : Nat) : Bool :=
  run.first ≤ code && code ≤ run.last && (code - run.first) % run.stride == 0

/-- Membership in a union of runs. -/
def anyContains (runs : List CodeRun) (code : Nat) : Bool :=
  runs.any fun run => run.contains code

end CodeRun

/-- A run of characters whose images lie at one distance from them. -/
structure CaseRun where
  domain : CodeRun
  offset : Int

/-- The image of a code point under the first run that holds it, else itself. -/
def CaseRun.apply (runs : List CaseRun) (code : Nat) : Nat :=
  match runs.find? fun run => run.domain.contains code with
  | some run => (code + run.offset).toNat
  | none => code

end RideQuery.Text
