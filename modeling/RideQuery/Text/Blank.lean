/-!
# Blanks

The characters that separate words, and the operations that only look at them:
trimming and splitting.  Besides the ASCII blanks this includes the information
separators U+001C to U+001F, the next-line control and the space separators of
every script.
-/

namespace RideQuery.Text

/-- The characters that count as blank. -/
def isBlank (c : Char) : Bool :=
  let code := c.toNat
  (9 ≤ code && code ≤ 13) || (28 ≤ code && code ≤ 32) || code == 133 || code == 160 ||
    code == 5760 || (8192 ≤ code && code ≤ 8202) || code == 8232 || code == 8233 ||
    code == 8239 || code == 8287 || code == 12288

/-- A text without the characters of a class at its end. -/
def dropRightWhile (p : Char → Bool) (text : List Char) : List Char :=
  (text.reverse.dropWhile p).reverse

/-- A text without the characters of a class at either end. -/
def stripWhile (p : Char → Bool) (text : List Char) : List Char :=
  dropRightWhile p (text.dropWhile p)

/-- A text without the blanks at either end. -/
def trim (text : List Char) : List Char :=
  stripWhile isBlank text

/-- A text without one line break at its end. -/
def dropLineEnd (text : List Char) : List Char :=
  if text.getLast? == some '\n' then text.dropLast else text

/-- Whether a text is empty or begins with a blank. -/
def startsBlank : List Char → Bool
  | [] => true
  | c :: _ => isBlank c

/-- Puts a character in front of the first of some words. -/
def consFirst (c : Char) : List (List Char) → List (List Char)
  | [] => [[c]]
  | word :: rest => (c :: word) :: rest

/-- The maximal runs of characters that are not blank. -/
def words : List Char → List (List Char)
  | [] => []
  | c :: rest =>
    if isBlank c then
      words rest
    else if startsBlank rest then
      [c] :: words rest
    else
      consFirst c (words rest)

@[simp]
theorem words_nil : words [] = [] :=
  rfl

/-- Words joined by single spaces. -/
def unwords (parts : List (List Char)) : List Char :=
  [' '].intercalate parts

end RideQuery.Text
