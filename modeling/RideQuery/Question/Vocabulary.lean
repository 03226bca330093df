import RideQuery.Schema.Profile

/-!
# Vocabulary

The words by which a question reveals what it is about.  Most lists are looked
for as parts of longer words; the lists of a topic, of a rider's gender and of
rain are looked for as whole words.
-/

namespace RideQuery.Question

open RideQuery.Schema

/-! ## Words that point at columns -/

/-- Words of a question that go with some kinds of data type. -/
structure TypeFamily where
  vocabulary : List String
  types : List String

/-- The families of data types; the first that fits counts. -/
def typeFamilies : List TypeFamily :=
  [{ vocabulary := ["time", "date", "month", "year", "week", "day", "hour", "minute"]
     types := timeTypes },
   { vocabulary := ["count", "sum", "total", "average", "distance", "km", "kilometer"]
     types := numericTypes },
   { vocabulary := ["name", "station", "location", "address", "street"]
     types := textualTypes },
   { vocabulary := ["is", "has", "active", "enabled", "valid"]
     types := booleanTypes }]

/-- A customary part of a column name, and the words of a question that go with it. -/
structure NamingConvention where
  marker : String
  vocabulary : List String

/-- The naming conventions; every one that fits counts. -/
def namingConventions : List NamingConvention :=
  [{ marker := "_id", vocabulary := ["id", "identifier"] },
   { marker := "_name", vocabulary := ["name", "title"] },
   { marker := "_at", vocabulary := ["time", "date"] },
   { marker := "_by", vocabulary := ["by", "user"] },
   { marker := "_count", vocabulary := ["count", "number"] }]

/-- The words that put a question into the context of a known table. -/
def tableVocabulary : List (String × List String) :=
  [(Dimension.stations.table, ["station", "location", "address", "dock"]),
   (factTable, ["trip", "ride", "journey"]),
   (Dimension.weather.table, ["weather", "rain", "temperature"]),
   (Dimension.users.table, ["user", "rider", "person"])]

/-- Words for female riders. -/
def femaleWords : List String := ["women", "female", "woman"]

/-- Words for male riders. -/
def maleWords : List String := ["men", "male", "man"]

/-- Words for the gender of riders. -/
def genderWords : List String := femaleWords ++ maleWords ++ ["gender"]

/-- A subject that both column names and questions can be about. -/
structure Topic where
  markers : List String
  vocabulary : List String

/-- The topics; the first that fits counts. -/
def topics : List Topic :=
  [{ markers := ["gender", "sex", "male", "female"]
     vocabulary := genderWords },
   { markers := ["precipitation", "weather", "rain", "temperature"]
     vocabulary := ["rainy", "rain", "wet", "weather", "precipitation", "humid", "temperature"] },
   { markers := ["station", "name", "address", "location"]
     vocabulary :=
      ["station", "location", "address", "avenue", "street", "road", "boulevard", "congress",
        "place", "dock", "docking"] },
   { markers := distanceMarkers
     vocabulary :=
      ["kilometers", "kilometer", "kilometres", "kilometre", "km", "distance", "length", "miles",
        "far", "near", "away"] }]

/-! ## Words that point at filters -/

/-- Markers of columns that hold the weather of a day. -/
def weatherMarkers : List String := ["precipitation", "weather", "rain"]

/-- Marker of columns that hold an amount of rain. -/
def rainMarkers : List String := ["precipitation"]

/-- Words for rain. -/
def weatherWords : List String := ["rainy", "rain", "precipitation", "wet", "weather"]

/-- Parts of words without which no place is looked for. -/
def placeHints : List String :=
  ["congress", "avenue", "street", "station", "dock", "road", "boulevard"]

/-- Words that end the name of a street. -/
def streetSuffixes : List String :=
  ["avenue", "street", "road", "boulevard", "lane", "drive", "square", "place"]

/-- Words before a street suffix that name no street. -/
def determiners : List String :=
  ["the", "a", "an", "this", "that", "each", "every", "which", "any"]

/-- Words that a place follows. -/
def prepositions : List String := ["at", "from", "near"]

/-! ## Words that make a question -/

/-- Parts of words that belong to the domain. -/
def domainKeywords : List String :=
  ["ride", "trip", "journey", "bike", "cycle", "station", "docking", "point",
    "time", "duration", "minute", "hour", "day", "week", "month", "year",
    "avenue", "street", "congress", "start", "end", "departure", "arrival",
    "weather", "rain", "rainy", "precipitation", "wet", "dry",
    "rider", "user", "male", "female", "woman", "man", "gender",
    "distance", "kilometer", "km", "length", "far", "near",
    "how many", "count", "total", "average", "mean", "most", "least", "highest", "lowest",
    "what", "which", "when", "where", "how"]

/-- Words that begin a question or a request. -/
def openingWords : List String :=
  ["what", "which", "when", "where", "how", "show", "tell", "find", "get"]

/-- How many keywords a text needs that does not begin like a question. -/
def minKeywords : Nat := 2

/-- Parts of words that together ask for a breakdown. -/
def groupingTriggers : List String := ["which", "most"]

/-! ## Months -/

/-- The names of the months in order. -/
def months : List String :=
  ["january", "february", "march", "april", "may", "june", "july", "august", "september",
    "october", "november", "december"]

end RideQuery.Question
