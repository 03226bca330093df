import RideQuery.Question.Vocabulary

/-!
# Places

The place that a question names.  A run of capitalised words behind a preposition
comes first, without the months at its end; failing that, a word in front of a
street suffix.  Only the first of each kind is looked at.
-/

namespace RideQuery.Question

open RideQuery.Text

/-! ## Behind a preposition -/

/-- The characters that go on a capitalised word. -/
def isPlaceChar (c : Char) : Bool :=
  isWordChar c || c == '\x27' || c == '.' || c == '&' || c == '-'

/-- A capitalised word at the front of a text, and the text behind it. -/
def dropCapitalised : List Char → Option (List Char × List Char)
  | [] => none
  | c :: rest =>
    if 'A' ≤ c && c ≤ 'Z' then
      some (c :: rest.takeWhile isPlaceChar, rest.dropWhile isPlaceChar)
    else
      none

/--
The run of capitalised words that a text begins with, at most `limit` of them.
-/
def capitalisedRun : Nat → List Char → List (List Char)
  | 0, _ => []
  | limit + 1, text =>
    match dropCapitalised text with
    | none => []
    | some (word, left) =>
      word :: match dropBlanks left with
        | some next => capitalisedRun limit next
        | none => []

/-- A recogniser of a preposition and the capitalised words behind it. -/
def prepositional : Recogniser (List (List Char)) :=
  fun before text => do
    guard (boundaryAt before text)
    let left ← prepositions.findSome? fun preposition => dropExact preposition.toList text
    let next ← dropBlanks left
    let run := capitalisedRun next.length next
    guard !run.isEmpty
    pure run

/-- The marks that end a clause. -/
def isStop (c : Char) : Bool :=
  c == '.' || c == ',' || c == '?' || c == '!'

/-- Whether a word, apart from stops, is the name of a month. -/
def isMonth (word : List Char) : Bool :=
  months.contains (String.ofList (stripWhile isStop (lower word)))

/-- Words without the months at their end. -/
def dropMonths (run : List (List Char)) : List (List Char) :=
  (run.reverse.dropWhile isMonth).reverse

/-- The place that a run of words names, which may be empty. -/
def placeOfRun (run : List (List Char)) : List Char :=
  stripWhile isStop (unwords (dropMonths run))

/-! ## In front of a street suffix -/

/-- The ASCII letters, and the letters that stand for one of them up to case. -/
def isFoldedLetter (c : Char) : Bool :=
  c.isAlpha || c == 'ſ' || c == '\u212A' || c == 'İ' || c == 'ı'

/-- The characters that go on the name of a street. -/
def isStreetChar (c : Char) : Bool :=
  isWordChar c || c == '\x27' || c == '-'

/-- A recogniser of a word and the street suffix behind it. -/
def street : Recogniser (List Char × List Char) :=
  fun before text => do
    guard (boundaryAt before text)
    guard ((text.head?.map isFoldedLetter).getD false)
    let next ← dropBlanks (text.dropWhile isStreetChar)
    let (suffix, _) ← dropWord streetSuffixes next
    pure (text.takeWhile isStreetChar, suffix)

/-- The place that a street names, unless its first word is a determiner. -/
def placeOfStreet? (name suffix : List Char) : Option (List Char) :=
  if determiners.contains (String.ofList (lower name)) then
    none
  else
    let place := name ++ ' ' :: suffix
    some (if place.any isUpper then place else title place)

/-! ## Places -/

/-- The place that the first preposition leads to, unless nothing is left of it. -/
def prepositionalPlace? (text : List Char) : Option (List Char) :=
  match findFirst prepositional none text with
  | some run =>
    let place := placeOfRun run
    if place.isEmpty then none else some place
  | none => none

/-- The place that the first street names. -/
def streetPlace? (text : List Char) : Option (List Char) :=
  match findFirst street none text with
  | some (name, suffix) => placeOfStreet? name suffix
  | none => none

/-- The place that a text names. -/
def place? (text : List Char) : Option (List Char) :=
  match prepositionalPlace? text with
  | some place => some place
  | none => streetPlace? text

end RideQuery.Question
