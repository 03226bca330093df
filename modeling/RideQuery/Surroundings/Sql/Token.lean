import RideQuery.Surroundings.Sql.Keyword
import RideQuery.Text.Blank
import RideQuery.Text.Digit

/-!
# Tokens

SQL text cut into words, numbers, literals and operators.  Blanks and comments
separate tokens and are dropped; a comment in brackets may hold others.  A word goes
on until a blank or a character that operators and brackets are made of, so letters
of every script may stand in one.
-/

namespace RideQuery.Sql

open RideQuery.Text

/-- A token of SQL. -/
inductive Token where
  /-- A bare word in capitals; `GROUP BY` and its like are one word. -/
  | word (text : String)
  /-- A name between double quotes, in capitals. -/
  | quoted (text : String)
  /-- A literal between single quotes. -/
  | literal (text : String)
  /-- A literal in some other form, such as one of bytes or one between dollar signs. -/
  | coded
  | number
  /-- An operator or a bracket. -/
  | symbol (text : String)
  deriving DecidableEq

namespace Token

/-- What a character is in capitals, if that can matter to a keyword. -/
def capital (c : Char) : Char :=
  if c == 'ſ' then 'S' else if c == 'ı' then 'I' else c.toUpper

/-- A text in capitals, as far as keywords are concerned. -/
def capitals (text : List Char) : String :=
  String.ofList (text.map capital)

/-- The characters that no word holds. -/
def wordBreaks : List Char :=
  ['(', ')', '[', ']', '\x7b', '\x7d', '&', '^', ':', ',', '-', '.', '=', '>', '<', '%', '!', '/',
    '\\', '+', '*', '~', '|', ';', '?', '@', '#', '\x22', '\x27', '\x60']

/-- Whether a character goes on a word. -/
def isWordPart (c : Char) : Bool :=
  !isBlank c && !wordBreaks.contains c

/-- The operators of more than one character, the longest first. -/
def longSymbols : List String :=
  ["||/", "->>", "#>>", "<=>", "<->", "~~~", "~~*", "-|-", "->", "#>", "#-", "<=", ">=", "<>",
    "!=", "||", "|/", "|>", "::", "~~", "~*", "&&", "&<", "&>", "@>", "<@", "@@", ":=", "=>",
    "==", "??", "?&", "?|", "^@"]

/-! ## Literals -/

/-- What stands before a closing mark, and the text behind it; the mark written twice is none. -/
def readMarked (mark : Char) : List Char → Option (List Char × List Char)
  | [] => none
  | [c] => if c == mark then some ([], []) else none
  | c :: d :: rest =>
    if c == mark then
      if d == mark then (readMarked mark rest).map fun (text, left) => (mark :: text, left)
      else some ([], d :: rest)
    else
      (readMarked mark (d :: rest)).map fun (text, left) => (c :: text, left)

/-- The text behind a closing quote, where a backslash keeps a quote or a backslash. -/
def dropEscaped : List Char → Option (List Char)
  | [] => none
  | [c] => if c == '\x27' then some [] else none
  | c :: d :: rest =>
    if (c == '\\' && (d == '\\' || d == '\x27')) || (c == '\x27' && d == '\x27') then
      dropEscaped rest
    else if c == '\x27' then some (d :: rest)
    else dropEscaped (d :: rest)

/-- The text behind a closing mark of any length. -/
def dropThrough (mark : List Char) : List Char → Option (List Char)
  | [] => none
  | c :: rest =>
    if mark.isPrefixOf (c :: rest) then some ((c :: rest).drop mark.length)
    else dropThrough mark rest

/-- Whether a text consists of digits to a base, or is empty. -/
def areDigits (base : Nat) (text : List Char) : Bool :=
  text.all fun c =>
    (c.isDigit && c.toNat - 48 < base) || (base == 16 && 'A' ≤ c.toUpper && c.toUpper ≤ 'F')

/-- What a dollar sign begins, with the text behind it. -/
inductive Dollar where
  | literal (left : List Char)
  | parameter (left : List Char)
  /-- A literal without an end. -/
  | unclosed

/--
What a dollar sign begins, given the text behind it.  A tag that another dollar sign
closes begins a literal, which ends with the same tag; a tag that holds blanks or is
a number does not, and neither does one that is closed by the last character.
-/
def readDollar (text : List Char) : Dollar :=
  let tag := text.takeWhile (· != '$')
  match text.drop tag.length with
  | [] => if tag.isEmpty then .unclosed else .parameter text
  | _ :: body =>
    if tag.isEmpty || !(body.isEmpty || tag.any isBlank || tag.all isDigitLike) then
      match dropThrough ('$' :: tag ++ ['$']) body with
      | some left => .literal left
      | none => .unclosed
    else
      .parameter (if body.isEmpty then text.drop 1 else text)

/--
The text behind a comment in brackets, inside which `depth` others are open.  A
comment that opens directly behind the opening of another does not count.
-/
def dropComment (opening closing : List Char) : Nat → List Char → Option (List Char)
  | depth, c :: d :: rest =>
    let closes := closing.isPrefixOf (c :: d :: rest)
    if closes && depth == 0 then
      some rest
    else
      let depth := if closes then depth - 1 else depth
      if opening.isPrefixOf (d :: rest) then
        match rest with
        | _ :: left => dropComment opening closing (depth + 1) left
        | [] => none
      else
        dropComment opening closing depth (d :: rest)
  | _, _ => none

/-! ## Numbers -/

/--
The text behind a number: digits, at most one point, and at most one exponent, which
may have a sign.  `signs` tells how far the exponent has come: 0 before it, 1 in it
and 2 behind its sign.
-/
def dropNumber (point : Bool) (signs : Nat) : List Char → List Char
  | [] => []
  | c :: rest =>
    if isDigitLike c then dropNumber point signs rest
    else if c == '.' && !point then dropNumber true signs rest
    else if (c == '+' || c == '-') && signs == 1 && (rest.head?.map isDigitLike).getD false then
      dropNumber point 2 rest
    else if (c == 'e' || c == 'E') && signs == 0 then dropNumber point 1 rest
    else c :: rest

/-- A number to base two or sixteen behind its first two characters, if the text begins so. -/
def readBased (c : Char) (rest : List Char) : Option (Token × List Char) :=
  match c, rest with
  | '0', mark :: digits =>
    let base := if mark.toUpper == 'B' then 2 else if mark.toUpper == 'X' then 16 else 0
    if base == 0 then none
    else
      let text := digits.takeWhile fun c => isWordPart c && c != '$'
      let left := digits.drop text.length
      if !text.isEmpty && areDigits base text then some (.coded, left)
      else some (.quoted (capitals (c :: mark :: text)), left)
  | _, _ => none

/-! ## Words -/

/-- The text behind a phrase, whatever blanks stand for its spaces. -/
def dropPhrase : List Char → List Char → Option (List Char)
  | [], text => some text
  | ' ' :: phrase, c :: text =>
    if isBlank c then dropPhrase phrase (text.dropWhile isBlank) else none
  | d :: phrase, c :: text => if capital c == d then dropPhrase phrase text else none
  | _ :: _, [] => none

/-- Whether a phrase may end before a text. -/
def endsPhrase : List Char → Bool
  | [] => true
  | c :: _ => isBlank c || wordBreaks.contains c || c == '$'

/-- The phrase that a text begins with, and the text behind it. -/
def readPhrase (text : List Char) : Option (Token × List Char) :=
  Keyword.phrases.findSome? fun phrase => do
    let left ← dropPhrase phrase.toList text
    guard (endsPhrase left)
    pure (.word phrase, left)

/-- The operator that a text begins with, and the text behind it. -/
def readSymbol (c : Char) (rest : List Char) : Token × List Char :=
  match longSymbols.find? fun text => text.toList.isPrefixOf (c :: rest) with
  | some text => (.symbol text, (c :: rest).drop text.length)
  | none => if c == '\x60' then (.quoted "\x60", rest) else (.symbol c.toString, rest)

/-! ## Texts -/

/-- One token, or none where a blank or a comment stands, and the text behind it. -/
def readNext (c : Char) (rest : List Char) : Option (Option Token × List Char) :=
  if isBlank c then
    some (none, rest)
  else if isDigitLike c then
    match readBased c rest with
    | some (token, left) => some (some token, left)
    | none => some (some .number, dropNumber false 0 rest)
  else if c == '\x22' then do
    let (text, left) ← readMarked c rest
    some (some (.quoted (capitals text)), left)
  else if c == '\x27' then do
    let (text, left) ← readMarked c rest
    some (some (.literal (String.ofList text)), left)
  else if c == '$' then
    match readDollar rest with
    | .literal left => some (some .coded, left)
    | .parameter left => some (some (.symbol "$"), left)
    | .unclosed => none
  else
    match c.toUpper, rest with
    | '-', '-' :: comment => some (none, comment.dropWhile fun c => c != '\n' && c != '\r')
    | '/', '*' :: comment => (dropComment "/*".toList "*/".toList 0 comment).map (none, ·)
    | '\x7b', '#' :: comment =>
      (dropComment "\x7b#".toList "#\x7d".toList 0 comment).map (none, ·)
    | 'E', '\x27' :: text => (dropEscaped text).map (some .coded, ·)
    | 'N', '\x27' :: text => (readMarked '\x27' text).map fun (_, left) => (some .coded, left)
    | 'B', '\x27' :: text => do
      let (digits, left) ← readMarked '\x27' text
      guard (areDigits 2 digits)
      some (some .coded, left)
    | 'X', '\x27' :: text => do
      let (digits, left) ← readMarked '\x27' text
      guard (areDigits 16 digits)
      some (some .coded, left)
    | _, _ =>
      if isWordPart c then
        match readPhrase (c :: rest) with
        | some (token, left) => some (some token, left)
        | none =>
          let text := c :: rest.takeWhile isWordPart
          some (some (.word (capitals text)), rest.dropWhile isWordPart)
      else
        let (token, left) := readSymbol c rest
        some (some token, left)

/-- The tokens of a text that has at most `limit` characters. -/
def readFrom : Nat → List Char → Option (List Token)
  | _, [] => some []
  | 0, _ => none
  | limit + 1, c :: rest => do
    let (token, left) ← readNext c rest
    let tokens ← readFrom limit left
    some (token.toList ++ tokens)

/-- The tokens of a text; a literal, a quoted name or a comment without an end is refused. -/
def read? (text : List Char) : Option (List Token) :=
  readFrom text.length text

end Token

end RideQuery.Sql
