import RideQuery.Surroundings.Sql.Grammar.Call
import RideQuery.Surroundings.Sql.Grammar.Type

/-!
# Operands

Literals, names, bracketed expressions and spans of time, with what may stand behind
them: conversions, indices, members and the paths into documents.
-/

namespace RideQuery.Sql.Grammar

/-! ## Literals and brackets -/

/-- An option of a star, such as the columns that it leaves out. -/
def starOption (ask : Ask) (texts : List String) : Rule Unit := do
  if ← spelled texts then
    if ← sees (isSymbol "(") then
      let _ ← wrapped (separated (ask .expression))
    else
      let _ ← renamed ask true (← ask .disjunction)

/-- A star, which has been read, with its options. -/
def star (ask : Ask) : Rule (Option Node) := do
  starOption ask ["EXCEPT", "EXCLUDE"]
  starOption ask ["REPLACE"]
  starOption ask ["RENAME"]
  pure (some .other)

/-- The clauses that may follow a query between brackets; read where queries are. -/
abbrev QueryTail := Node → Rule Node

/-- What stands between brackets, the first of which has been read. -/
def bracketed (ask : Ask) (tail : QueryTail) : Rule (Option Node) := do
  match ← ask (.query false false true true) with
  | some (.source found) =>
    if found.kind == .values then
      let _ ← tail (.source found)
    closing
    pure (some (.ofKind .subquery))
  | some _ =>
    closing
    pure (some .other)
  | none =>
    let listed ← listed (ask .expression)
    match listed.found with
    | [] =>
      closing
      pure (some .other)
    | first :: others =>
      match first with
      | .source found =>
        if [SourceKind.subquery, .values].contains found.kind then
          let combined ← combined ask (some first)
          match combined with
          | some query => let _ ← tail query
          | none => pure ()
        closing
        pure (some (.ofKind .subquery))
      | .aggregate =>
        closing
        if others.isEmpty && !listed.trailing then window ask (some .bracketedAggregate)
        else pure (some .other)
      | _ =>
        closing
        pure (some .other)

/-- A literal, a star or something between brackets. -/
def primary (ask : Ask) (tail : QueryTail) : Rule (Option Node) := do
  match ← get with
  | .literal text :: rest =>
    set rest
    let more ← iterated
      (fun _ => do pure (if ← takeIf isLiteral then some true else none)) false
    pure (some (if more then .other else .literal text))
  | .number :: rest =>
    set rest
    pure (some .number)
  | .coded :: rest =>
    set rest
    pure (some .other)
  | .word text :: rest =>
    if ["NULL", "TRUE", "FALSE"].contains text then
      set rest
      pure (some .other)
    else
      pure none
  | .symbol "*" :: rest =>
    set rest
    star ask
  | .symbol "." :: .number :: rest =>
    set rest
    pure (some .number)
  | .symbol "(" :: rest =>
    set rest
    bracketed ask tail
  | _ => pure none

/-! ## Names and what stands behind them -/

/-- An index, a slice or an entry between brackets of an array. -/
def bracketEntry (ask : Ask) : Rule (Option Node) := do
  let found ← renamed ask true (← ask .assignment)
  if ← symbol ":" then
    let _ ← ask .assignment
    pure (some .other)
  else
    pure found

/-- Whether brackets behind something make an array of what they hold. -/
def makesArray : Option Node → Bool
  | some (.name text _) => text == "ARRAY" || text == "LIST"
  | found => found.isNone

/-- The brackets of indices and arrays behind something. -/
def brackets (ask : Ask) (found : Option Node) : Rule (Option Node) :=
  iterated
    (fun found => do
      if ← symbol "[" then
        let entries ← separated (bracketEntry ask)
        insist (← symbol "]")
        insist (makesArray found || !entries.isEmpty)
        pure (some (some .other))
      else if ← symbol "\x7b" then
        let _ ← separated (bracketEntry ask)
        insist (← symbol "\x7d")
        pure (some (some .other))
      else
        pure none)
    found

/-- What a name of a member, of a function or of a column may be. -/
structure FieldPlace where
  /-- Whether any token may be a name. -/
  any : Bool
  /-- Whether a function may have any name. -/
  anonymous : Bool

/-- A literal, a call or a name. -/
def field (ask : Ask) (tail : QueryTail) (place : FieldPlace) : Rule (Option Node) :=
  let called := call ask { bare := true, qualified := place.anonymous }
  let literal := primary ask tail
  let named := name ask place.any Keyword.isName
  if place.anonymous then orElse called (orElse literal named)
  else orElse literal (orElse called named)

/-- A reference to a column, or anything that can stand for one. -/
def reference (ask : Ask) (tail : QueryTail) : Rule (Option Node) := do
  match ← field ask tail { any := false, anonymous := false } with
  | some found => pure (some found)
  | none =>
    match ← get with
    | [.word "VALUES"] =>
      set ([] : List Token)
      pure (some (.name "VALUES" true))
    | .word "VALUES" :: token :: rest =>
      if isSymbol "(" token then
        pure none
      else
        set (token :: rest)
        pure (some (.name "VALUES" true))
    | _ => pure none

/-- The operators that lead into a document. -/
def pathSymbols : List String := ["->", "->>", "#>", "#>>", "?"]

/-- One conversion, path or member behind something. -/
def columnStep (ask : Ask) (tail : QueryTail) (found : Option Node) :
    Rule (Option (Option Node)) := do
  if ← symbol "::" then
    let _ ← need (ask (.type false false true))
    insist found.isSome
    pure (some (← brackets ask (some .other)))
  else if ← takeIf (isSymbolIn pathSymbols) then
    let _ ← need (orElse (ask .column) (ask .bitwise))
    insist found.isSome
    pure (some (← brackets ask (some .other)))
  else if ← symbol "." then
    let member ← need (field ask tail { any := true, anonymous := true })
    insist found.isSome
    let node := match member with
      | .name text _ => Node.name text false
      | _ => .other
    pure (some (← brackets ask (some node)))
  else
    pure none

/-- What may stand behind a name or another operand. -/
def columnTail (ask : Ask) (tail : QueryTail) (found : Option Node) : Rule (Option Node) := do
  iterated (columnStep ask tail) (← brackets ask found)

/-- A column or anything that can stand for one, with what stands behind it. -/
def column (ask : Ask) (tail : QueryTail) : Rule (Option Node) := do
  match ← reference ask tail with
  | some found => columnTail ask tail (some found)
  | none => brackets ask none

/-! ## Spans of time -/

/-- Whether a text holds a number with a unit behind it, such as `3 days`. -/
def hasUnit : List Char → Bool
  | [] => false
  | c :: rest =>
    (c.isDigit && ((rest.dropWhile Text.isBlank).head?.map Char.isAlpha).getD false) ||
      hasUnit rest

/-- Whether a text begins with a number of days and a time of day, such as `1 12:30`. -/
def isDayTime (text : List Char) : Bool :=
  let dropSign : List Char → List Char := fun text =>
    match text with
    | '-' :: rest => rest
    | rest => rest
  let unsigned := (dropSign (text.dropWhile Text.isBlank)).dropWhile Text.isBlank
  let afterDays := unsigned.dropWhile Char.isDigit
  let afterPlaces := match afterDays with
    | '.' :: places => places.dropWhile Char.isDigit
    | rest => rest
  let time := dropSign (afterPlaces.dropWhile Text.isBlank)
  unsigned.length != afterDays.length && Text.startsBlank afterPlaces &&
    (time.dropWhile Char.isDigit).head? == some ':'

/-- Whether units are left out behind a text that has its own; `DAY TO SECOND` may follow. -/
def omitsUnits (ask : Ask) (text : String) : Rule Bool := do
  if isDayTime text.toList then
    let start ← get
    let first ← variableName ask true
    let ranged ← if first.isSome then spelled ["TO"] else pure false
    let second ← if ranged then variableName ask true else pure none
    set start
    pure second.isNone
  else
    pure false

/-- The unit of a span, if one comes next. -/
def spanUnit (ask : Ask) : Rule (Option Node) :=
  orElse (ask .call) do
    if ← sees (isWord "AS") then pure none else variableName ask true

/--
The unit behind the number of a span.  A literal that names its own units has none
behind it, so that the token that was taken for one is given back.
-/
def spanTail (ask : Ask) (count : Node) : Rule Unit := do
  let text := match count with
    | .literal text => text
    | _ => ""
  let before ← get
  let unit ← if ← omitsUnits ask text then pure none else spanUnit ask
  let own := hasUnit text.toList
  if own && unit.isSome then
    let read := before.length - (← get).length
    set (before.drop (read - 1))
  if ← spelled ["TO"] then
    insist (own || unit.isSome)
    let _ ← need (orElse (ask .call) (variableName ask true))

/--
A span of time; `start` is where it begins.  A name counts as its number only if a
unit follows.
-/
def span (ask : Ask) (tail : QueryTail) (start : List Token) : Rule (Option Node) := do
  let count ← if ← sees isLiteral then primary ask tail else ask .term
  match count with
  | none =>
    set start
    pure none
  | some found =>
    let unitMissing := (match found with | .name _ bare => bare | _ => false) &&
      (← tokensLeft) && !(← sees (isSpelled Keyword.intervalUnits))
    if unitMissing then
      set start
      pure none
    else
      spanTail ask found
      match found with
      | .name "END" true => pure (some .endSpan)
      | _ => pure (some .other)

/-- Spans of time that are added up. -/
def interval (ask : Ask) (tail : QueryTail) : Rule (Option Node) := do
  let start ← get
  if ← word "INTERVAL" then
    match ← span ask tail start with
    | none => pure none
    | some first =>
      pure (some (← iterated
        (fun _ => do
          let behind ← get
          let _ ← symbol "+"
          if ← sees fun token => isLiteral token || token == .number then
            let _ ← need (span ask tail behind)
            pure (some .other)
          else
            set behind
            pure none)
        first))
  else
    pure none

/-! ## Operands -/

/-- A literal of a type that is named in front of it, or a type by itself with arguments. -/
def typedLiteral (ask : Ask) (tail : QueryTail) : Rule (Option Node) := do
  let start ← get
  match ← ask (.type true false false) with
  | none => pure none
  | some (.type arguments) =>
    let behind ← get
    match ← primary ask tail with
    | some (.literal text) =>
      let _ ← columnTail ask tail (some (.literal text))
      pure (some .other)
    | some .number =>
      let _ ← columnTail ask tail (some .number)
      pure (some .other)
    | _ =>
      if arguments && 1 < start.length - behind.length then
        set behind
        columnTail ask tail (some .other)
      else
        set start
        pure none
  | some found => columnTail ask tail (some found)

/-- An operand. -/
def operand (ask : Ask) (tail : QueryTail) : Rule (Option Node) := do
  match ← interval ask tail with
  | some .endSpan => pure (some .endSpan)
  | some found => columnTail ask tail (some found)
  | none =>
    match ← typedLiteral ask tail with
    | some found => pure (some found)
    | none => column ask tail

end RideQuery.Sql.Grammar
