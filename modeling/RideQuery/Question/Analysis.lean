import RideQuery.Question.Dates
import RideQuery.Question.Detection

/-!
# Analysis of questions

From a question to an intent.  A question is accepted if it begins like one or
holds enough words of the domain; the intent of an accepted question is put
together from what the ranking, the detectors and the dates find.
-/

namespace RideQuery.Question

open RideQuery.Text RideQuery.Schema RideQuery.Calendar

/-! ## Acceptance -/

/-- The keywords that occur in a text, its case apart, in the order of the vocabulary. -/
def keywords (text : List Char) : List String :=
  domainKeywords.filter fun keyword => occursIn keyword.toList (lower text)

/-- Whether a text begins like a question or a request. -/
def opensLikeQuestion (text : List Char) : Bool :=
  (dropWord openingWords text).isSome

/-- Whether a question is one that can be answered. -/
def isValid (asked : Asked) : Bool :=
  let text := trim asked.chars
  !text.isEmpty && (opensLikeQuestion text || minKeywords ≤ (keywords text).length)

/-! ## Aggregation -/

/-- The words that ask for an aggregation, in the order in which they are looked for. -/
def aggregationWords : List (Aggregation × List String) :=
  [(.avg, ["average", "mean", "typical", "usual"]),
    (.sum, ["kilometer", "kilometre", "km", "distance", "length"]),
    (.max, ["most", "highest"]),
    (.min, ["least", "lowest"])]

/-- The kind of query that every question is put down as. -/
def queryKind (_asked : Asked) : QueryKind :=
  .aggregation

/-- The aggregation that a question asks for; trips are counted by default. -/
def aggregation (asked : Asked) : Aggregation :=
  match aggregationWords.find? fun (_, vocabulary) => hasMarker vocabulary (lower asked.chars) with
  | some (kind, _) => kind
  | none => .count

/-! ## Grouping -/

/-- Whether a question asks for a breakdown. -/
def wantsGroups (asked : Asked) : Bool :=
  groupingTriggers.all fun trigger => occursIn trigger.toList (lower asked.chars)

/-- The column to group by among some that are ranked: a station's, a textual one, or any. -/
def rankedGroupColumn (ranked : List Scored) : Option Column :=
  if ranked.any atStations then placeColumn ranked
  else preferring isTextual (fun _ => true) ranked

/-- The names of the columns to group by, given the ranked columns. -/
def groupNames (asked : Asked) (columns : List Column) (ranked : List Scored) : List String :=
  if wantsGroups asked then
    let column :=
      if ranked.isEmpty then columns.find? isStationName else rankedGroupColumn ranked
    (column.map Column.name).toList
  else
    []

/-- The names of the columns to group by, the columns being ranked if they are not yet. -/
def groupBy (asked : Asked) (columns : List Column) (ranked : Option (List Scored)) :
    List String :=
  groupNames asked columns (ranked.getD (rank asked.text columns))

/-! ## Intents -/

/-- Why a question has no intent. -/
inductive AnalysisError where
  /-- The question is not one that can be answered. -/
  | rejected
  /-- Its dates could not be worked out. -/
  | date (error : DateError)
  deriving DecidableEq

/-- The columns that the intent of a question is made from, the strongest first. -/
def rankedColumns (asked : Asked) (columns : List Column) : List Scored :=
  rank (lowerText asked.text) columns

/-- The intent of a question that is asked of some columns on a given day. -/
def analyze (asked : Asked) (columns : List Column) (today : Date) :
    Except AnalysisError Intent :=
  if isValid asked then
    let lowered : Asked := some (lowerText asked.text)
    let ranked := rankedColumns asked columns
    match dateRange lowered.chars today with
    | .error error => .error (.date error)
    | .ok dateRange =>
      .ok
        { kind := queryKind lowered
          aggregation := aggregation lowered
          filters := Detector.detectAll Detector.all asked ranked
          dateRange := dateRange
          groupBy := groupNames lowered columns ranked }
  else
    .error .rejected

end RideQuery.Question
