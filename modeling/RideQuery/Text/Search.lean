import RideQuery.Text.Word
import RideQuery.Text.Blank

/-!
# Searching a text

Whether a text contains another, and the leftmost place where a recogniser
succeeds.  A recogniser is told the character before the place it is tried at, so
that it can ask for a word boundary, and answers with what it found and the text
that is left.
-/

namespace RideQuery.Text

/-- Whether `part` occurs in `whole` as a run of adjacent characters. -/
def occursIn (part whole : List Char) : Bool :=
  match whole with
  | [] => part.isEmpty
  | _ :: rest => part.isPrefixOf whole || occursIn part rest

/-- Whether one text occurs in another. -/
def contains (whole part : String) : Bool :=
  occursIn part.toList whole.toList

/-- A recogniser tried at one place: the character before it, and the text from there. -/
abbrev Recogniser (α : Type) :=
  Option Char → List Char → Option α

/-- The answer of a recogniser at the leftmost place where it has one. -/
def findFirst {α : Type} (recognise : Recogniser α) (before : Option Char) :
    List Char → Option α
  | [] => recognise before []
  | c :: rest =>
    match recognise before (c :: rest) with
    | some found => some found
    | none => findFirst recognise (some c) rest

/-- Whether a recogniser succeeds anywhere in a text. -/
def recognises {α : Type} (recognise : Recogniser α) (text : List Char) : Bool :=
  (findFirst recognise none text).isSome

/-- Whether a character belongs to a word, the edge of the text counting as none. -/
def isWordAt : Option Char → Bool
  | none => false
  | some c => isWordChar c

/-- A word boundary lies between two characters of which exactly one belongs to a word. -/
def boundaryAt (before : Option Char) (rest : List Char) : Bool :=
  isWordAt before != isWordAt rest.head?

/-! ## Letters without regard to case -/

/--
Whether a character is the given small ASCII letter up to case.  The long s
stands for an s, the Kelvin sign for a k, and the dotted capital and dotless
small i for an i.
-/
def foldsTo (letter c : Char) : Bool :=
  c == letter || c == letter.toUpper ||
    (letter == 's' && c == 'ſ') ||
    (letter == 'k' && c == '\u212A') ||
    (letter == 'i' && (c == 'İ' || c == 'ı'))

/-- The text behind a word that is met letter by letter. -/
def dropExact (word text : List Char) : Option (List Char) :=
  if word.isPrefixOf text then some (text.drop word.length) else none

/-- The text after a word that is met up to case, and the word as it was written. -/
def dropFolded : List Char → List Char → Option (List Char × List Char)
  | [], text => some ([], text)
  | _ :: _, [] => none
  | letter :: word, c :: rest =>
    if foldsTo letter c then
      (dropFolded word rest).map fun (written, left) => (c :: written, left)
    else
      none

/-- The first of some words that is met up to case with a boundary behind it. -/
def dropWord (vocabulary : List String) (text : List Char) :
    Option (List Char × List Char) :=
  vocabulary.findSome? fun word =>
    match dropFolded word.toList text with
    | some (written, left) =>
      if boundaryAt written.getLast? left then some (written, left) else none
    | none => none

/-- A recogniser of the words of a vocabulary, standing alone and up to case. -/
def wholeWord (vocabulary : List String) : Recogniser (List Char × List Char) :=
  fun before text =>
    if boundaryAt before text then dropWord vocabulary text else none

/-- Whether one of the words stands alone somewhere in a text, up to case. -/
def hasWord (vocabulary : List String) (text : List Char) : Bool :=
  recognises (wholeWord vocabulary) text

/-- At least one blank, all of them dropped. -/
def dropBlanks (text : List Char) : Option (List Char) :=
  match text with
  | c :: rest => if isBlank c then some (rest.dropWhile isBlank) else none
  | [] => none

/-- A recogniser of two words that stand alone with only blanks between them. -/
def wordPair (first second : String) : Recogniser Unit :=
  fun before text => do
    guard (boundaryAt before text)
    let (_, afterFirst) ← dropFolded first.toList text
    let afterBlanks ← dropBlanks afterFirst
    let _ ← dropWord [second] afterBlanks
    pure ()

end RideQuery.Text
