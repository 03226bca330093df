import RideQuery.Value

/-!
# Documents of JSON

What a JSON text says.  An escape in a text of JSON may name half of a pair of surrogates
alone, which is no character, so that the texts of a document are made from letters: a
letter is a character or such a half.  A document all of whose letters are characters is
also an open value.
-/

namespace RideQuery.Json

open RideQuery.Number

/-- A character, or half of a pair of surrogates without the other half. -/
inductive Letter where
  | char (c : Char)
  /-- The half by its place among the surrogates. -/
  | half (place : Fin 0x800)
  deriving DecidableEq

/-- The character that a letter is, if it is one. -/
def Letter.char? : Letter → Option Char
  | .char c => some c
  | .half _ => none

/-- The character that a letter is shown as: a half is shown as a replacement. -/
def Letter.shown : Letter → Char
  | .char c => c
  | .half _ => '\uFFFD'

/-- What a JSON text says. -/
inductive Document where
  | null
  | bool (b : Bool)
  | int (n : Int)
  | float (x : Binary64)
  | text (letters : List Letter)
  | list (items : List Document)
  /-- Entries in the order in which their keys were first written. -/
  | dict (entries : List (List Letter × Document))

/-- The entries of an object. -/
abbrev Members := List (List Letter × Document)

namespace Document

instance : Inhabited Document := ⟨.null⟩

/-- Writes an entry: a known key keeps its place and gets the new document. -/
def insert (members : Members) (key : List Letter) (document : Document) : Members :=
  match members with
  | [] => [(key, document)]
  | (known, own) :: rest =>
    if known = key then (known, document) :: rest else (known, own) :: insert rest key document

/-- The members that result from writing some entries one after the other. -/
def ofMembers (members : Members) : Members :=
  members.foldl (fun written entry => insert written entry.1 entry.2) []

/-- The document under a key of characters. -/
def lookup? (members : Members) (key : String) : Option Document :=
  members.lookup (key.toList.map .char)

/-- Whether a document counts as true: it is neither null, false, zero nor empty. -/
def truthy : Document → Bool
  | .null => false
  | .bool b => b
  | .int n => n != 0
  | .float x => !x.isZero
  | .text letters => !letters.isEmpty
  | .list items => !items.isEmpty
  | .dict entries => !entries.isEmpty

/-- The text that letters make, if all of them are characters. -/
def text? (letters : List Letter) : Option String :=
  (letters.mapM Letter.char?).map String.ofList

mutual

/-- The open value that a document is, if all its letters are characters. -/
def value? : Document → Option Value
  | .null => some .null
  | .bool b => some (.bool b)
  | .int n => some (.int n)
  | .float x => some (.float x)
  | .text letters => (text? letters).map .text
  | .list items => (values? items).map .list
  | .dict entries => (entries? entries).map .dict

/-- The open values that some documents are. -/
def values? : List Document → Option (List Value)
  | [] => some []
  | item :: rest => do
    let value ← value? item
    some (value :: (← values? rest))

/-- The entries of a dictionary that some members are. -/
def entries? : Members → Option Dict
  | [] => some []
  | (key, document) :: rest => do
    let name ← text? key
    let value ← value? document
    some ((.text name, value) :: (← entries? rest))

end

end Document

end RideQuery.Json
