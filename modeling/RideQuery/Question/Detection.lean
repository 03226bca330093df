import RideQuery.Intent
import RideQuery.Question.Asked
import RideQuery.Question.Place
import RideQuery.Question.Relevance

/-!
# Detection of filters

The conditions that a question puts on trips: a place, the gender of the riders,
and rain.  Each detector looks at the question and at the ranked columns, and
finds at most one condition.
-/

namespace RideQuery.Question

open RideQuery.Text RideQuery.Schema

/-! ## Gender -/

/-- The gender of riders. -/
inductive Gender where
  | female
  | male
  deriving DecidableEq

/-- How a gender is stored. -/
def Gender.stored : Gender → String
  | .female => "female"
  | .male => "male"

/-- The gender that a text speaks of, the female one first. -/
def gender? (text : List Char) : Option Gender :=
  if hasWord femaleWords text then some .female
  else if hasWord maleWords text then some .male
  else none

/-! ## Choice of a column -/

/-- Whether a ranked column is a station's. -/
def atStations (scored : Scored) : Bool :=
  scored.column.inTable Dimension.stations.table

/-- Whether a ranked column is textual. -/
def isTextual (scored : Scored) : Bool :=
  scored.column.typed textualTypes

/-- The first ranked column of a class, one of a preferred class first. -/
def preferring (preferred eligible : Scored → Bool) (ranked : List Scored) : Option Column :=
  let candidates := ranked.filter eligible
  match candidates.find? preferred with
  | some scored => some scored.column
  | none => candidates.head?.map Scored.column

/-- The column that a place is looked for in. -/
def placeColumn (ranked : List Scored) : Option Column :=
  preferring isTextual atStations ranked

/-- The column that a gender is looked for in. -/
def genderColumn (ranked : List Scored) : Option Column :=
  (ranked.find? fun scored => isGenderColumn scored.column).map Scored.column

/-- The column that rain is looked for in. -/
def weatherColumn (ranked : List Scored) : Option Column :=
  preferring (fun scored => scored.column.named rainMarkers)
    (fun scored => scored.column.named weatherMarkers && scored.column.typed numericTypes) ranked

/-! ## Detectors -/

/-- What a filter can be detected by. -/
inductive Detector where
  | place
  | gender
  | weather
  deriving DecidableEq

namespace Detector

/-- Every detector, in the order in which filters are listed. -/
def all : List Detector :=
  [.place, .gender, .weather]

/-- The condition that a place holds a text. -/
def placeFilter (column : Column) (place : List Char) : Filter :=
  { column := column.name
    operator := .like
    value := .text ("%" ++ String.ofList place ++ "%") }

/-- The condition that riders have a gender. -/
def genderFilter (column : Column) (gender : Gender) : Filter :=
  { column := column.name
    operator := .equal
    value := .text gender.stored }

/-- The condition that it rained. -/
def weatherFilter (column : Column) : Filter :=
  { column := column.name
    operator := .greater
    value := .int 0 }

/-- The condition that a detector finds in a question. -/
def detect (detector : Detector) (asked : Asked) (ranked : List Scored) : Option Filter :=
  match detector with
  | .place => do
    guard (hasMarker placeHints (lower asked.chars))
    let column ← placeColumn ranked
    let place ← place? asked.chars
    pure (placeFilter column place)
  | .gender => do
    guard (hasWord genderWords asked.chars)
    let column ← genderColumn ranked
    let gender ← gender? asked.chars
    pure (genderFilter column gender)
  | .weather => do
    guard (hasWord weatherWords asked.chars)
    let column ← weatherColumn ranked
    pure (weatherFilter column)

/-- The conditions that some detectors find, in their order. -/
def detectAll (detectors : List Detector) (asked : Asked) (ranked : List Scored) : List Filter :=
  detectors.filterMap fun detector => detector.detect asked ranked

end Detector

end RideQuery.Question
