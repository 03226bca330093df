import RideQuery.Number.Numeral
import RideQuery.Text.Case
import RideQuery.Text.Search

/-!
# Guarding statements

Only texts that begin like a query are handed to a database.  Blanks and closing
semicolons are trimmed, and a limit on the number of rows is added to a text that
has none.
-/

namespace RideQuery.Sql

open RideQuery.Text RideQuery.Number

/-- The words that a query begins with. -/
def queryWords : List String := ["with", "select"]

/-- Whether a text begins like a query, behind blanks and opening brackets. -/
def isReadOnly (text : List Char) : Bool :=
  (dropWord queryWords (((trim text).dropWhile (· == '(')).dropWhile isBlank)).isSome

/-- What a text is refused with that does not begin like a query. -/
def refusalMessage : String := "Only SELECT/CTE queries are allowed"

/-- A text without blanks at either end and without the semicolons behind it. -/
def trimStatement (text : List Char) : List Char :=
  dropRightWhile (· == ';') (trim text)

/-- Whether a text has a limit of its own, between plain spaces. -/
def hasLimit (text : List Char) : Bool :=
  occursIn " limit ".toList (lower text)

/-- A limit on the number of rows, unless it has too many digits to be written. -/
def limitClause (limit : Int) : Except NumberError (List Char) := do
  pure (" LIMIT ".toList ++ (← writeInteger limit).toList)

/-- A text with a limit on the number of rows, unless it has one; nought limits nothing. -/
def withLimit (limit : Option Int) (text : List Char) : Except NumberError (List Char) :=
  match limit with
  | none => .ok text
  | some limit =>
    if limit = 0 || hasLimit text then .ok text
    else do pure (text ++ (← limitClause limit))

/-- The statement that a database is handed for a text. -/
def statementOf (limit : Option Int) (text : List Char) : Except NumberError (List Char) :=
  withLimit limit (trimStatement text)

end RideQuery.Sql
