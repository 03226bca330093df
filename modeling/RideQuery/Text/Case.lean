import RideQuery.Text.Case.Table

/-!
# Case of letters

Lower and title case of a whole text.  Both depend on more than the letter: a
capital sigma becomes a final sigma at the end of a word, and title case raises
the first letter after a character that has no case.
-/

namespace RideQuery.Text

/-- Whether a letter is upper case. -/
def isUpper (c : Char) : Bool :=
  if c.toNat < 128 then c.isUpper else CodeRun.anyContains upperRuns c.toNat

/-- Whether a character has a case, be it upper, lower or title. -/
def isCased (c : Char) : Bool :=
  if c.toNat < 128 then c.isAlpha else CodeRun.anyContains casedRuns c.toNat

/-- Whether a character is looked through when the neighbours of a sigma are sought. -/
def isCaseIgnorable (c : Char) : Bool :=
  inRanges caseIgnorableRanges c.toNat

/-- The lower-case form of a letter on its own. -/
def lowerChar (c : Char) : List Char :=
  if c.toNat < 128 then
    [c.toLower]
  else if c == 'İ' then
    ['i', '\u0307']
  else
    [Char.ofNat (CaseRun.apply lowerRuns c.toNat)]

/-- The title-case form of a letter. -/
def titleChar (c : Char) : List Char :=
  match titleExpansions.lookup c.toNat with
  | some codes => codes.map Char.ofNat
  | none => [Char.ofNat (CaseRun.apply titleRuns c.toNat)]

/-- Whether the next character that is not looked through has a case. -/
def casedNext : List Char → Bool
  | [] => false
  | c :: rest => if isCaseIgnorable c then casedNext rest else isCased c

/--
The lower-case form of a letter within a text: `casedBefore` tells whether the
last character that is not looked through has a case.
-/
def lowerIn (casedBefore : Bool) (c : Char) (rest : List Char) : List Char :=
  if c == 'Σ' then
    [if casedBefore && !casedNext rest then 'ς' else 'σ']
  else
    lowerChar c

/-- What `casedBefore` is behind one more character. -/
def casedAfter (casedBefore : Bool) (c : Char) : Bool :=
  if isCaseIgnorable c then casedBefore else isCased c

/-- The lower-case form of the rest of a text. -/
def lowerFrom (casedBefore : Bool) : List Char → List Char
  | [] => []
  | c :: rest => lowerIn casedBefore c rest ++ lowerFrom (casedAfter casedBefore c) rest

/-- The lower-case form of a text. -/
def lower (text : List Char) : List Char :=
  lowerFrom false text

/-- The lower-case form of a text. -/
def lowerText (text : String) : String :=
  String.ofList (lower text.toList)

/--
The title-case form of the rest of a text: a letter directly behind one that has
a case is lowered and any other is raised.
-/
def titleFrom (casedBefore inWord : Bool) : List Char → List Char
  | [] => []
  | c :: rest =>
    (if inWord then lowerIn casedBefore c rest else titleChar c) ++
      titleFrom (casedAfter casedBefore c) (isCased c) rest

/-- The title-case form of a text. -/
def title (text : List Char) : List Char :=
  titleFrom false false text

end RideQuery.Text
