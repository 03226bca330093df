import RideQuery.Question.Vocabulary

/-!
# Relevance of columns

How strongly a question points at a column.  Seven rules look at the question and
one column; each that applies is a reason with a fixed number of points, and the
score of a column is their sum.  Columns are ranked by score, and equal scores
keep the order of the catalog.
-/

namespace RideQuery.Question

open RideQuery.Text RideQuery.Schema

/-! ## Rules -/

/-- Words shorter than this are not looked for in names. -/
def minWordLength : Nat := 3

/-- The words of a text that are looked for in names. -/
def longWords (text : List Char) : List (List Char) :=
  (words text).filter fun word => minWordLength ≤ word.length

/-- The first word of a text that occurs in a name. -/
def firstWordIn (text name : List Char) : Option (List Char) :=
  (longWords text).find? fun word => occursIn word name

/-- Points if the data type belongs to a family that the text speaks of. -/
def typePoints (text dataType : List Char) : Nat :=
  if typeFamilies.any fun family =>
      hasMarker family.vocabulary text && hasMarker family.types dataType then 20
  else 0

/-- Points for each naming convention that joins the text to a name, up to a limit. -/
def namingPoints (text name : List Char) : Nat :=
  let met := namingConventions.filter fun convention =>
    occursIn convention.marker.toList name && hasMarker convention.vocabulary text
  min (15 * met.length) 25

/-- Points if the text speaks of a known table. -/
def contextPoints (text table : List Char) : Nat :=
  match tableVocabulary.lookup (String.ofList table) with
  | some vocabulary => if hasMarker vocabulary text then 15 else 0
  | none => 0

/-- Points if a name and the text share a topic. -/
def topicPoints (text name : List Char) : Nat :=
  if topics.any fun topic =>
      hasMarker topic.markers (lower name) && hasWord topic.vocabulary text then 40
  else 0

/-! ## Reasons -/

/-- Why a question points at a column. -/
inductive Reason where
  /-- The text holds the name of the column. -/
  | exactName
  /-- The name of the column holds a word of the text. -/
  | partialName (word : List Char)
  /-- The name of the table holds a word of the text. -/
  | tableName (word : List Char)
  /-- The data type belongs to a family that the text speaks of. -/
  | dataType (points : Nat)
  /-- The name follows conventions that the text speaks of. -/
  | naming (points : Nat)
  /-- The text speaks of the table. -/
  | context (points : Nat)
  /-- The name and the text share a topic. -/
  | topic (points : Nat)
  deriving DecidableEq

namespace Reason

/-- How much a reason counts. -/
def points : Reason → Nat
  | .exactName => 100
  | .partialName _ => 50
  | .tableName _ => 30
  | .dataType points => points
  | .naming points => points
  | .context points => points
  | .topic points => points

/-- A text between double quotation marks. -/
def inMarks (text : String) : String :=
  "\"" ++ text ++ "\""

/-- The wording of a reason for a column. -/
def describe (column : Column) : Reason → String
  | .exactName => "Exact column name match: " ++ inMarks column.name
  | .partialName word =>
    "Partial match: " ++ inMarks (String.ofList word) ++ " in " ++ inMarks column.name
  | .tableName word =>
    "Table match: " ++ inMarks (String.ofList word) ++ " in " ++ inMarks column.table
  | .dataType _ => "Data type relevance: " ++ column.dataType.getD ""
  | .naming _ => "Naming pattern match: " ++ inMarks column.name
  | .context _ => "Contextual relevance: " ++ column.qualified
  | .topic _ => "Semantic relevance: " ++ inMarks column.name

end Reason

/-- A reason, if its points are not nought. -/
def worthwhile (reason : Nat → Reason) (points : Nat) : Option Reason :=
  if points = 0 then none else some (reason points)

/-- The reasons for which a text in lower case points at a column, in the order of the rules. -/
def reasonsIn (text : List Char) (column : Column) : List Reason :=
  let name := column.lowerName
  let table := column.lowerTable
  [if !name.isEmpty && occursIn name text then some .exactName else none,
    (firstWordIn text name).map .partialName,
    (firstWordIn text table).map .tableName,
    worthwhile .dataType (typePoints text column.lowerType),
    worthwhile .naming (namingPoints text name),
    worthwhile .context (contextPoints text table),
    worthwhile .topic (topicPoints text name)].reduceOption

/-! ## Ranking -/

/-- A column with the reasons for which a question points at it. -/
structure Scored where
  column : Column
  reasons : List Reason
  deriving DecidableEq

namespace Scored

/-- The sum of the points of all reasons. -/
def score (scored : Scored) : Nat :=
  (scored.reasons.map Reason.points).foldr (· + ·) 0

/-- The wordings of the reasons. -/
def wordings (scored : Scored) : List String :=
  scored.reasons.map (Reason.describe scored.column)

/-- The wordings of the reasons in one line. -/
def summary (scored : Scored) : String :=
  "; ".intercalate scored.wordings

/-- Whether one column comes before another, or may. -/
def ranksBefore (a b : Scored) : Bool :=
  b.score ≤ a.score

end Scored

/-- A column with the reasons for which a text points at it. -/
def scoreColumn (text : String) (column : Column) : Scored :=
  { column, reasons := reasonsIn (lower text.toList) column }

/-- The columns that a text points at, the strongest first. -/
def rank (text : String) (columns : List Column) : List Scored :=
  ((columns.map (scoreColumn text)).filter fun scored => 0 < scored.score).mergeSort
    Scored.ranksBefore

/-- The column that a text points at most strongly. -/
def best? (text : String) (columns : List Column) : Option Scored :=
  (rank text columns).head?

/-- The data types that serve a kind of query, if the kind asks for particular ones. -/
def typesFor (kind : String) : Option (List String) :=
  [("aggregation", numericTypes), ("filter", filterableTypes), ("group_by", textualTypes)].lookup
    kind

/-- The columns that a text points at and whose data types serve a kind of query. -/
def rankFor (kind text : String) (columns : List Column) : List Scored :=
  match typesFor kind with
  | some types => (rank text columns).filter fun scored => scored.column.typed types
  | none => rank text columns

end RideQuery.Question
