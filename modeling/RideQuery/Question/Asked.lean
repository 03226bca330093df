/-!
# Questions as asked

A question comes from outside and may be missing altogether, which is the same as
an empty one wherever its words are looked at.
-/

namespace RideQuery.Question

/-- A question as it was asked, if one was. -/
abbrev Asked := Option String

namespace Asked

/-- The text of a question, empty if there is none. -/
def text (asked : Asked) : String :=
  asked.getD ""

/-- The characters of a question. -/
def chars (asked : Asked) : List Char :=
  asked.text.toList

end Asked

end RideQuery.Question
