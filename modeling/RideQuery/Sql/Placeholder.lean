import RideQuery.Number.Numeral
import RideQuery.Value

/-!
# Placeholders

Positional placeholders `$1`, `$2` and so on in SQL text.  A text is cut into
pieces, so that what stands in a quoted literal is never taken for a placeholder.
Inside a literal two quotes stand for one; a quote that closes no literal is an
ordinary character.
-/

namespace RideQuery.Sql

open RideQuery.Number RideQuery.Text

/-- A piece of SQL text. -/
inductive Piece where
  /-- A quoted literal, its quotes included. -/
  | literal (text : List Char)
  /-- A placeholder with the digits behind its dollar sign. -/
  | placeholder (digits : List Char)
  /-- Any other character. -/
  | plain (c : Char)
  deriving DecidableEq

namespace Piece

/-- The text of a piece. -/
def text : Piece → List Char
  | .literal text => text
  | .placeholder digits => '$' :: digits
  | .plain c => [c]

/-- The digits of a placeholder. -/
def digits? : Piece → Option (List Char)
  | .placeholder digits => some digits
  | _ => none

end Piece

/-- The single quote. -/
def singleQuote : Char := '\x27'

/--
The rest of a literal behind its opening quote, up to and including its closing
one, and the text behind it.  Doubled quotes are kept together as long as a
closing quote is left for the literal.
-/
def literalRest : List Char → Option (List Char × List Char)
  | [] => none
  | [c] => if c == singleQuote then some ([c], []) else none
  | c :: d :: rest =>
    if c == singleQuote then
      if d == singleQuote then
        match literalRest rest with
        | some (inside, left) => some (c :: d :: inside, left)
        | none => some ([c], d :: rest)
      else
        some ([c], d :: rest)
    else
      (literalRest (d :: rest)).map fun (inside, left) => (c :: inside, left)

/-- The piece that a text begins with, and the text behind it. -/
def firstPiece (c : Char) (rest : List Char) : Piece × List Char :=
  if c == singleQuote then
    match literalRest rest with
    | some (inside, left) => (.literal (c :: inside), left)
    | none => (.plain c, rest)
  else if c == '$' && (rest.head?.map isDecimalDigit).getD false then
    (.placeholder (rest.takeWhile isDecimalDigit), rest.dropWhile isDecimalDigit)
  else
    (.plain c, rest)

/-- The pieces of a text that has at most `limit` characters. -/
def piecesFrom : Nat → List Char → List Piece
  | 0, _ => []
  | _ + 1, [] => []
  | limit + 1, c :: rest =>
    let (piece, left) := firstPiece c rest
    piece :: piecesFrom limit left

/-- The pieces of a text. -/
def pieces (text : List Char) : List Piece :=
  piecesFrom text.length text

/-! ## Numbers of placeholders -/

/-- The number that the digits of a placeholder stand for. -/
def placeholderNumber (digits : List Char) : Except NumberError Nat :=
  if maxDigits < digits.length then
    .error (.tooManyDigits digits.length)
  else
    .ok (ofDigits (digits.filterMap digitValue?))

/-- The numbers of the placeholders of a text, in order and with repetitions. -/
def placeholders (text : List Char) : Except NumberError (List Nat) :=
  ((pieces text).filterMap Piece.digits?).mapM placeholderNumber

/-- How many different placeholders a text has. -/
def placeholderCount (text : List Char) : Except NumberError Nat := do
  let numbers ← placeholders text
  pure numbers.eraseDups.length

/-! ## Replacing placeholders -/

/-- A text with every placeholder read as an absent value. -/
def withoutPlaceholders (text : List Char) : List Char :=
  (pieces text).flatMap fun piece =>
    match piece with
    | .placeholder _ => "NULL".toList
    | other => other.text

/-- Why placeholders could not be given names. -/
inductive BindError where
  /-- The number of a placeholder has too many digits. -/
  | numeral (error : NumberError)
  /-- A placeholder has no parameter among those supplied. -/
  | unmatched (number supplied : Nat)
  deriving DecidableEq

/-- The wording of each failure. -/
def BindError.message : BindError → String
  | .numeral error => error.message
  | .unmatched number supplied =>
    "Placeholder $" ++ Nat.repr number ++ " has no parameter (" ++ Nat.repr supplied ++
      " supplied)"

/-- The name of the placeholder with a number. -/
def bindName (stem : String) (number : Nat) : String :=
  stem ++ Nat.repr number

/-- The parameter with a number, the first one being 1. -/
def parameter? (parameters : List Value) (number : Nat) : Option Value :=
  if number = 0 then none else parameters[number - 1]?

/-- A piece with its placeholder named, and the value that the name stands for. -/
structure NamedPiece where
  text : List Char
  bind : Option (String × Value)

/-- Names the placeholder that a piece may be. -/
def Piece.named (stem : String) (parameters : List Value) :
    Piece → Except BindError NamedPiece
  | .placeholder digits =>
    match placeholderNumber digits with
    | .error error => .error (.numeral error)
    | .ok number =>
      match parameter? parameters number with
      | none => .error (.unmatched number parameters.length)
      | some value =>
        .ok
          { text := ':' :: (bindName stem number).toList
            bind := some (bindName stem number, value) }
  | other => .ok { text := other.text, bind := none }

/-- SQL text with named placeholders, and the values that the names stand for. -/
structure NamedText where
  text : List Char
  binds : Dict

/-- The text that pieces make up, and the values of their names. -/
def NamedText.ofPieces (named : List NamedPiece) : NamedText :=
  { text := named.flatMap NamedPiece.text
    binds := Value.ofEntries
      ((named.filterMap NamedPiece.bind).map fun (name, value) => (.text name, value)) }

/-- A text with every placeholder named by its number, behind a stem. -/
def bindNames (stem : String) (text : List Char) (parameters : List Value) :
    Except BindError NamedText := do
  let named ← (pieces text).mapM (Piece.named stem parameters)
  pure (NamedText.ofPieces named)

/-- The stem of the names that a database is given. -/
def defaultStem : String := "p"

end RideQuery.Sql
