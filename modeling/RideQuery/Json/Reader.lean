import RideQuery.Json.Document
import RideQuery.Room

/-!
# Reading JSON

The document of a JSON text.  Beyond the standard the names `NaN`, `Infinity` and
`-Infinity` are numbers.  An object with a repeated key keeps the first place and
the last value.  Three failures are told apart: a malformed text, an integer with
too many digits, and a part that lies too deep for the room that there is.  Every
bracket takes a place of that room, and so does the name of a number.
-/

namespace RideQuery.Json

open RideQuery.Number RideQuery.Text

/-- Why a text could not be read. -/
inductive ReadError where
  /-- The text is not JSON. -/
  | malformed
  /-- An integer with too many digits. -/
  | number (error : NumberError)
  /-- A part that lies too deep. -/
  | tooDeep (activity : Activity)
  deriving DecidableEq

/-- The wording of the failures that are reported; a malformed text has none. -/
def ReadError.message : ReadError → String
  | .malformed => ""
  | .number error => error.message
  | .tooDeep activity => activity.message

/-- The blanks that JSON allows between tokens. -/
def isSpace (c : Char) : Bool :=
  c == ' ' || c == '\t' || c == '\n' || c == '\r'

/-- A text without the blanks in front of it. -/
def skipSpace (text : List Char) : List Char :=
  text.dropWhile isSpace

/-! ## Texts -/

/-- The value of a hexadecimal digit. -/
def hexValue? (c : Char) : Option Nat :=
  if '0' ≤ c && c ≤ '9' then some (c.toNat - 48)
  else if 'a' ≤ c && c ≤ 'f' then some (c.toNat - 87)
  else if 'A' ≤ c && c ≤ 'F' then some (c.toNat - 55)
  else none

/-- The code unit that four hexadecimal digits stand for. -/
def readUnit? : List Char → Option (Nat × List Char)
  | a :: b :: c :: d :: rest => do
    let digits ← [a, b, c, d].mapM hexValue?
    some (digits.foldl (fun unit digit => 16 * unit + digit) 0, rest)
  | _ => none

/-- Whether a code unit is the first of a surrogate pair. -/
def isHighSurrogate (unit : Nat) : Bool :=
  0xD800 ≤ unit && unit < 0xDC00

/-- Whether a code unit is the second of a surrogate pair. -/
def isLowSurrogate (unit : Nat) : Bool :=
  0xDC00 ≤ unit && unit < 0xE000

/-- The character beyond the basic plane that a surrogate pair stands for. -/
def joinSurrogates (high low : Nat) : Char :=
  Char.ofNat (0x10000 + (high - 0xD800) * 0x400 + (low - 0xDC00))

/-- The letter of a surrogate on its own. -/
def half (unit : Nat) : Letter :=
  .half (Fin.ofNat 0x800 (unit - 0xD800))

/-- The letter of a code unit on its own. -/
def unitLetter (unit : Nat) : Letter :=
  if isHighSurrogate unit || isLowSurrogate unit then half unit else .char (Char.ofNat unit)

/-- The second half of a surrogate pair, if its escape comes next. -/
def readLow? : List Char → Option (Nat × List Char)
  | '\\' :: 'u' :: rest =>
    match readUnit? rest with
    | some (unit, left) => if isLowSurrogate unit then some (unit, left) else none
    | none => none
  | _ => none

/-- The letter behind a backslash and a `u`. -/
def readUnicode? (text : List Char) : Option (Letter × List Char) :=
  match readUnit? text with
  | none => none
  | some (unit, left) =>
    if isHighSurrogate unit then
      match readLow? left with
      | some (low, left) => some (.char (joinSurrogates unit low), left)
      | none => some (half unit, left)
    else
      some (unitLetter unit, left)

/-- The character that a letter behind a backslash stands for. -/
def shortChar? (c : Char) : Option Char :=
  if c == '"' || c == '\\' || c == '/' then some c
  else if c == 'n' then some '\n'
  else if c == 'r' then some '\r'
  else if c == 't' then some '\t'
  else if c == 'b' then some '\x08'
  else if c == 'f' then some '\x0c'
  else none

/-- The letter of an escape, behind its backslash. -/
def readEscape? : List Char → Option (Letter × List Char)
  | 'u' :: rest => readUnicode? rest
  | c :: rest => (shortChar? c).map fun meant => (.char meant, rest)
  | [] => none

/-- The letters up to the closing mark; `fuel` bounds the length of the text. -/
def readTextFrom : Nat → List Char → Option (List Letter × List Char)
  | 0, _ => none
  | _ + 1, [] => none
  | fuel + 1, c :: rest =>
    if c == '"' then some ([], rest)
    else if c == '\\' then
      match readEscape? rest with
      | some (meant, left) =>
        (readTextFrom fuel left).map fun (others, left) => (meant :: others, left)
      | none => none
    else if c < ' ' then none
    else (readTextFrom fuel rest).map fun (others, left) => (.char c :: others, left)

/-- The text behind an opening mark. -/
def readText (text : List Char) : Except ReadError (List Letter × List Char) :=
  match readTextFrom (text.length + 1) text with
  | some found => .ok found
  | none => .error .malformed

/-! ## Numbers -/

/-- The whole part of a number: a lone nought, or digits that start with another one. -/
def wholeDigits : List Char → List Char
  | '0' :: _ => ['0']
  | text => text.takeWhile Char.isDigit

/-- A point with at least one digit behind it, if it comes next. -/
def fractionDigits : List Char → List Char
  | '.' :: rest => rest.takeWhile Char.isDigit
  | _ => []

/-- A sign, if one comes next. -/
def exponentSign : List Char → List Char
  | '+' :: _ => ['+']
  | '-' :: _ => ['-']
  | _ => []

/-- The exponent part of a number with its letter, if a complete one comes next. -/
def exponentSpan : List Char → List Char
  | c :: rest =>
    if c == 'e' || c == 'E' then
      let sign := exponentSign rest
      let digits := (rest.drop sign.length).takeWhile Char.isDigit
      if digits.isEmpty then [] else c :: sign ++ digits
    else
      []
  | [] => []

/-- The number that a text begins with. -/
def readNumber (text : List Char) : Except ReadError (Document × List Char) :=
  let sign := if text.head? == some '-' then ['-'] else []
  let whole := wholeDigits (text.drop sign.length)
  if whole.isEmpty then
    .error .malformed
  else
    let afterWhole := text.drop (sign.length + whole.length)
    let places := fractionDigits afterWhole
    let fraction := if places.isEmpty then [] else '.' :: places
    let exponent := exponentSpan (afterWhole.drop fraction.length)
    let numeral := sign ++ whole ++ fraction ++ exponent
    let left := text.drop numeral.length
    if fraction.isEmpty && exponent.isEmpty then
      match readInteger numeral with
      | .ok n => .ok (.int n, left)
      | .error error => .error (.number error)
    else
      match Binary64.read? numeral with
      | some x => .ok (.float x, left)
      | none => .error .malformed

/-- A name that stands for a document. -/
structure Name where
  letters : String
  meaning : Document
  /-- Whether it is looked up by a call, as the names of numbers are. -/
  isLookedUp : Bool

/-- The names that stand for documents. -/
def names : List Name :=
  [⟨"null", .null, false⟩, ⟨"true", .bool true, false⟩, ⟨"false", .bool false, false⟩,
    ⟨"NaN", .float .nan, true⟩, ⟨"Infinity", .float (.infinity false), true⟩,
    ⟨"-Infinity", .float (.infinity true), true⟩]

/-- The name that a text begins with, and the text behind it. -/
def readName? (text : List Char) : Option (Name × List Char) :=
  names.findSome? fun name =>
    if name.letters.toList.isPrefixOf text then some (name, text.drop name.letters.length)
    else none

/-- What a name stands for, where so many levels have room. -/
def Name.document (name : Name) (room : Nat) : Except ReadError Document :=
  if name.isLookedUp && room == 0 then .error (.tooDeep .calling) else .ok name.meaning

/-- A name or a number. -/
def readScalar (room : Nat) (text : List Char) : Except ReadError (Document × List Char) :=
  match readName? text with
  | some (name, left) => do .ok (← name.document room, left)
  | none => readNumber text

/-! ## Arrays and objects -/

mutual

/--
The document that a text begins with.  `fuel` bounds the number of steps, and `room`
says how many more levels have room.
-/
def readValue : Nat → Nat → List Char → Except ReadError (Document × List Char)
  | 0, _, _ => .error .malformed
  | fuel + 1, room, text =>
    match text with
    | '"' :: rest => do
      let (letters, left) ← readText rest
      .ok (.text letters, left)
    | '[' :: rest =>
      match room with
      | 0 => .error (.tooDeep .decodingArray)
      | room + 1 =>
        match skipSpace rest with
        | ']' :: left => .ok (.list [], left)
        | first => do
          let (items, left) ← readItems fuel room first
          .ok (.list items, left)
    | '\x7b' :: rest =>
      match room with
      | 0 => .error (.tooDeep .decodingObject)
      | room + 1 =>
        match skipSpace rest with
        | '\x7d' :: left => .ok (.dict [], left)
        | first => do
          let (members, left) ← readEntries fuel room first
          .ok (.dict (Document.ofMembers members), left)
    | _ => readScalar room text

/-- The members of an array, the first of which begins the text. -/
def readItems : Nat → Nat → List Char → Except ReadError (List Document × List Char)
  | 0, _, _ => .error .malformed
  | fuel + 1, room, text => do
    let (item, left) ← readValue fuel room text
    match skipSpace left with
    | ']' :: left => .ok ([item], left)
    | ',' :: left => do
      let (items, left) ← readItems fuel room (skipSpace left)
      .ok (item :: items, left)
    | _ => .error .malformed

/-- The entries of an object, the first of which begins the text. -/
def readEntries : Nat → Nat → List Char → Except ReadError (Members × List Char)
  | 0, _, _ => .error .malformed
  | fuel + 1, room, text =>
    match text with
    | '"' :: rest => do
      let (key, left) ← readText rest
      match skipSpace left with
      | ':' :: left => do
        let (document, left) ← readValue fuel room (skipSpace left)
        match skipSpace left with
        | '\x7d' :: left => .ok ([(key, document)], left)
        | ',' :: left => do
          let (members, left) ← readEntries fuel room (skipSpace left)
          .ok ((key, document) :: members, left)
        | _ => .error .malformed
      | _ => .error .malformed
    | _ => .error .malformed

end

/-- How many steps are enough to read a text. -/
def stepsFor (text : List Char) : Nat :=
  2 * text.length + 2

/-- The document of a JSON text, where so many levels have room. -/
def readWithin (room : Nat) (text : List Char) : Except ReadError Document := do
  let (document, left) ← readValue (stepsFor text) room (skipSpace text)
  if (skipSpace left).isEmpty then .ok document else .error .malformed

/-- The open value of a JSON text, with all the room that it takes. -/
def read? (text : String) : Option Value :=
  match readWithin (stepsFor text.toList) text.toList with
  | .ok document => document.value?
  | .error _ => none

end RideQuery.Json
