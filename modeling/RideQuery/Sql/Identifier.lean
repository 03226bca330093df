import RideQuery.Text.Blank

/-!
# Plain identifiers

Names that can stand in SQL without quotation marks: an ASCII letter or an
underscore, followed by letters, digits and underscores.  One line break at the
end is let through.
-/

namespace RideQuery.Sql

open RideQuery.Text

/-- The characters that an identifier begins with. -/
def isIdentifierStart (c : Char) : Bool :=
  c.isAlpha || c == '_'

/-- The characters that an identifier goes on with. -/
def isIdentifierChar (c : Char) : Bool :=
  c.isAlphanum || c == '_'

/-- Whether a text is a plain identifier. -/
def isPlainIdentifier : List Char → Bool
  | [] => false
  | c :: rest => isIdentifierStart c && rest.all isIdentifierChar

/-- Whether a name passes for an identifier. -/
def isIdentifier (name : String) : Bool :=
  isPlainIdentifier (dropLineEnd name.toList)

end RideQuery.Sql
