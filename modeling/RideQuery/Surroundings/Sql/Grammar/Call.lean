import RideQuery.Surroundings.Sql.Function
import RideQuery.Surroundings.Sql.Grammar.Clause

/-!
# Calls

Functions with their arguments, their windows, and the functions whose arguments are
written with words between them.  A function that is known must be given as many
arguments as it takes.
-/

namespace RideQuery.Sql.Grammar

/-! ## Windows -/

/-- An end of the frame of a window. -/
def frameEnd (ask : Ask) : Rule Unit := do
  let _ ← word "BETWEEN"
  unless ← spelled ["UNBOUNDED"] do
    unless ← spelling ["CURRENT", "ROW"] do
      let _ ← ask .bitwise
  let _ ← spelled ["FOLLOWING", "PRECEDING"]

/-- What is left out of the frame of a window. -/
def frameExclusion : Rule Unit := do
  if ← spelled ["EXCLUDE"] then
    let noOthers ← spelling ["NO", "OTHERS"]
    let currentRow ← if noOthers then pure true else spelling ["CURRENT", "ROW"]
    insist (currentRow || (← spelled ["GROUP", "TIES"]))

/-- The frame of a window, if one comes next. -/
def frame (ask : Ask) : Rule Unit := do
  if ← wordIn ["ROWS", "RANGE"] then
    let _ ← word "BETWEEN"
    frameEnd ask
    if ← word "AND" then
      frameEnd ask
    frameExclusion

/-- A window between brackets, the first of which has been read. -/
def windowBody (ask : Ask) : Rule Unit := do
  let _ ← name ask false Keyword.isWindowName
  let _ ← word "FIRST"
  let _ ← spelled ["LAST"]
  if ← wordIn ["PARTITION BY", "PARTITIONED BY", "PARTITIONED_BY"] then
    let _ ← separated (ask .disjunction)
  let _ ← order ask none
  frame ask
  closing

/-- Whether absent values count. -/
def nullsTreatment (found : Option Node) : Rule (Option Node) := do
  if ← spelling ["IGNORE", "NULLS"] then
    insist found.isSome
    pure (some .other)
  else if ← spelling ["RESPECT", "NULLS"] then
    insist found.isSome
    pure (some .other)
  else
    pure found

/-- A name of a window, or a window between brackets. -/
def windowOf (ask : Ask) (found : Option Node) : Rule (Option Node) := do
  if ← symbol "(" then
    windowBody ask
  else
    let _ ← plainName ask
  insist found.isSome
  pure (some .other)

/-- A function with the order, the filter and the windows behind it. -/
def window (ask : Ask) (found : Option Node) : Rule (Option Node) := do
  let found ←
    if ← spelling ["WITHIN", "GROUP"] then
      let _ ← wrapped (order ask none)
      insist found.isSome
      pure (some .other)
    else
      pure found
  let found ←
    if ← pair (isWord "FILTER") (isSymbol "(") then
      let _ ← word "WHERE"
      let _ ← need (ask .disjunction)
      closing
      insist found.isSome
      pure (some .other)
    else
      pure found
  let found ← nullsTreatment found
  iterated
    (fun found => do
      if ← word "OVER" then
        pure (some (← windowOf ask found))
      else
        pure none)
    found

/-! ## Arguments -/

/-- A greatest or least value that chooses among rows. -/
def chosenBy (ask : Ask) (found : Option Node) : Rule (Option Node) := do
  if ← word "HAVING" then
    let _ ← spelled ["MAX", "MIN"]
    let _ ← need (ask .column)
    insist found.isSome
    pure (some .other)
  else
    pure found

/-- A limit of an argument, if one comes next. -/
def limited (ask : Ask) (found : Option Node) : Rule (Option Node) := do
  pure (if (← limit ask).isSome then some .other else found)

/-- A function without a name: its arguments, an arrow and what it computes. -/
def lambda (ask : Ask) : Rule (Option Node) := do
  let start ← get
  if ← symbol "(" then
    let _ ← separated (anyName ask)
    unless ← symbol ")" do set start
  else
    let _ ← anyName ask
  if ← takeIf (isSymbolIn ["->", "=>"]) then
    let _ ← need (ask .disjunction)
    pure (some .other)
  else
    set start
    pure none

/-- An argument of a function, which may have a name of its own if `named`. -/
def argument (ask : Ask) (named : Bool) : Rule (Option Node) :=
  orElse (lambda ask) do
    let found ←
      if ← word "DISTINCT" then
        let _ ← separated (ask .disjunction)
        pure (some .other)
      else
        queryOrExpression ask named
    limited ask (← nullsTreatment (← order ask (← chosenBy ask (← nullsTreatment found))))

/-! ## Functions without brackets -/

/-- The branches of a choice up to its end, behind its first word. -/
def choice (ask : Ask) : Rule (Option Node) := do
  let _ ← ask .disjunction
  let branches ← iterated
    (fun count => do
      if ← word "WHEN" then
        let _ ← need (ask .disjunction)
        let _ ← word "THEN"
        let _ ← need (ask .disjunction)
        pure (some (count + 1))
      else
        pure none)
    0
  let otherwise ← if ← word "ELSE" then ask .disjunction else pure none
  unless ← word "END" do
    insist (match otherwise with | some .endSpan => true | _ => false)
  insist (0 < branches)
  pure (some .other)

/-- A condition with one or two values, behind its first word; `start` is where that stands. -/
def conditional (ask : Ask) (start : List Token) : Rule (Option Node) := do
  if ← symbol "(" then
    let arguments ← separated (do renamed ask true (← ask .assignment))
    insist (2 ≤ arguments.length && arguments.length ≤ 3)
    closing
    pure (some .other)
  else
    match ← ask .disjunction with
    | none =>
      set start
      pure none
    | some _ =>
      let _ ← word "THEN"
      let _ ← need (ask .disjunction)
      if ← word "ELSE" then
        let _ ← ask .disjunction
      let _ ← word "END"
      pure (some .other)

/-- What a word begins that needs no brackets behind it; none if the word is no such word. -/
def wordCall (ask : Ask) (text : String) (start : List Token) :
    Option (Rule (Option Node)) :=
  match text with
  | "ANY" => some do pure (some (← need (ask .bitwise)))
  | "CASE" => some do
    if ← sees (isSymbol ".") then
      set start
      pure none
    else
      choice ask
  | "CONNECT_BY_ROOT" => some do pure (some (← need (ask .column)))
  | "IF" => some (conditional ask start)
  | "NEXT" => some do
    if ← spelling ["VALUE", "FOR"] then
      let _ ← need (ask .column)
      pure (some .other)
    else
      set start
      pure none
  | "VARIADIC" => some do pure (some (← need (ask .bitwise)))
  | _ => none

/-! ## Functions with words between their arguments -/

/-- `CAST` and its like. -/
def castCall (ask : Ask) : Rule Unit := do
  insist (← ask .assignment).isSome
  if ← word "AS" then
    let type ← ask (.type false false true)
    if ← word "DEFAULT" then
      let _ ← ask .bitwise
      let _ ← spelling ["ON", "CONVERSION", "ERROR"]
    if ← takeIf fun token => isWord "FORMAT" token || isSymbol "," token then
      let _ ← need (stringLiteral ask)
      if ← spelling ["AT", "TIME", "ZONE"] then
        let _ ← need (ask .unary)
    else
      insist type.isSome
      if ← word "CHARACTER SET" then
        let _ ← stringOrVariable ask
  else
    insist (← symbol ",")
    let _ ← need (stringLiteral ask)

/-- `CONVERT` and its like. -/
def convertCall (ask : Ask) : Rule Unit := do
  let _ ← need (ask .bitwise)
  if ← word "USING" then
    let _ ← variableName ask false
  else
    insist (← symbol ",")
    let _ ← need (ask (.type false false true))

/-- `EXTRACT`. -/
def extractCall (ask : Ask) : Rule Unit := do
  let _ ← need (orElse (ask .call) (stringOrVariable ask))
  insist (← takeIf fun token => isWord "FROM" token || isSymbol "," token)
  let _ ← need (ask .bitwise)

/-- `DATE_PART`. -/
def datePartCall (ask : Ask) : Rule Unit := do
  let _ ← need (ask .operand)
  let _ ← symbol ","
  let _ ← need (ask .bitwise)

/-- `SUBSTRING`. -/
def substringCall (ask : Ask) : Rule Unit := do
  let arguments ← separated (ask .bitwise)
  let further ← iterated
    (fun (further : Bool × Bool) => do
      if ← word "FROM" then
        pure (some ((← ask .bitwise).isSome, further.2))
      else if ← word "FOR" then
        pure (some (true, (← ask .bitwise).isSome))
      else
        pure none)
    (false, false)
  let count := arguments.length + further.1.toNat + further.2.toNat
  insist (1 ≤ count && count ≤ 3)

/-- `TRIM`. -/
def trimCall (ask : Ask) : Rule Unit := do
  let _ ← spelled ["BOTH", "LEADING", "TRAILING"]
  let first ← ask .bitwise
  if ← word "FROM" then
    let _ ← need (ask .bitwise)
  else
    if ← symbol "," then
      let _ ← ask .bitwise
    insist first.isSome
  if ← word "COLLATE" then
    let _ ← ask .bitwise

/-- `POSITION`. -/
def positionCall (ask : Ask) : Rule Unit := do
  let arguments ← separated (ask .bitwise)
  if ← word "IN" then
    let _ ← need (ask .bitwise)
    insist !arguments.isEmpty
  else
    insist (2 ≤ arguments.length)

/-- A further argument of `OVERLAY`, behind a comma or a word. -/
def overlayArgument (ask : Ask) (text : String) : Rule Bool := do
  let marked ← if ← symbol "," then pure true else spelled [text]
  if marked then pure (← ask .bitwise).isSome else pure false

/-- `OVERLAY`. -/
def overlayCall (ask : Ask) : Rule Unit := do
  let _ ← need (ask .bitwise)
  let placing ← overlayArgument ask "PLACING"
  let start ← overlayArgument ask "FROM"
  let _ ← overlayArgument ask "FOR"
  insist (placing && start)

/-- `STRING_AGG`, whose last argument may be ordered. -/
def stringAggCall (ask : Ask) : Rule Unit := do
  let distinct ← word "DISTINCT"
  let arguments ← separated (ask .disjunction)
  if ← spelling ["ON", "OVERFLOW"] then
    unless ← spelled ["ERROR"] do
      let _ ← spelled ["TRUNCATE"]
      let _ ← stringLiteral ask
      let _ ← spelling ["WITH", "COUNT"]
  if ← sees (isSymbol ")") then
    insist (distinct || (1 ≤ arguments.length && arguments.length ≤ 3))
  else
    insist !arguments.isEmpty
    let _ ← limited ask (← order ask (some .other))

/-- What happens to absent values in an object. -/
def nullHandling : Rule Unit := do
  unless ← spelling ["NULL", "ON", "NULL"] do
    let _ ← spelling ["ABSENT", "ON", "NULL"]

/-- Whether a value between two texts is itself JSON. -/
def formatJson : Rule Unit := do
  let _ ← spelling ["FORMAT", "JSON"]

/-- A key of an object with its value. -/
def keyValue (ask : Ask) : Rule (Option Node) := do
  let _ ← spelled ["KEY"]
  let key ← ask .column
  let _ ← takeIf fun token => isSymbolIn [":", ","] token || isWord "IS" token
  let _ ← spelled ["VALUE"]
  let value ← ask .bitwise
  insist (key.isSome == value.isSome)
  formatJson
  pure value

/-- `JSON_OBJECT`. -/
def jsonObjectCall (ask : Ask) : Rule Unit := do
  if ← sees (isSymbol "*") then
    let _ ← ask .operand
  else
    let _ ← separated (keyValue ask)
  nullHandling
  if ← spelling ["WITH", "UNIQUE"] then
    pure ()
  else
    let _ ← spelling ["WITHOUT", "UNIQUE"]
  let _ ← spelled ["KEYS"]
  if ← spelled ["RETURNING"] then
    let _ ← ask .operand
    formatJson
  if ← spelled ["ENCODING"] then
    let _ ← variableName ask false

/-- `CEIL` and `FLOOR`. -/
def ceilCall (ask : Ask) : Rule Unit := do
  let _ ← separated (argument ask false)
  if ← spelled ["TO"] then
    let _ ← variableName ask false

/-- `CHR` and its like. -/
def chrCall (ask : Ask) : Rule Unit := do
  insist !(← separated (ask .assignment)).isEmpty
  if ← word "USING" then
    let _ ← variableName ask false

/-- `NORMALIZE`. -/
def normalizeCall (ask : Ask) : Rule Unit := do
  let _ ← need (ask .bitwise)
  if ← symbol "," then
    let _ ← stringOrVariable ask

/-- `DECODE`, which tells cases apart if it has more than two arguments. -/
def decodeCall (ask : Ask) : Rule Unit := do
  let arguments ← separated (ask .disjunction)
  insist (2 ≤ arguments.length)

/-- `JSON_AGG`. -/
def jsonAggCall (ask : Ask) : Rule Unit := do
  let _ ← need (argument ask false)
  let _ ← order ask none

/-- `JSONB_EXISTS`. -/
def jsonExistsCall (ask : Ask) : Rule Unit := do
  let _ ← need (ask .bitwise)
  insist (← symbol ",")
  let _ ← need (ask .bitwise)

/-- `XMLELEMENT`. -/
def xmlElementCall (ask : Ask) : Rule Unit := do
  if ← spelled ["NAME"] then
    let _ ← anyName ask
  if ← symbol "," then
    let _ ← separated (ask .expression)

/-- The arguments of a function that are written in a way of their own. -/
def specialCall (ask : Ask) : String → Option (Rule Unit)
  | "CAST" | "SAFE_CAST" | "TRY_CAST" => some (castCall ask)
  | "CONVERT" | "TRY_CONVERT" => some (convertCall ask)
  | "EXTRACT" => some (extractCall ask)
  | "DATE_PART" => some (datePartCall ask)
  | "SUBSTRING" => some (substringCall ask)
  | "TRIM" => some (trimCall ask)
  | "POSITION" => some (positionCall ask)
  | "OVERLAY" => some (overlayCall ask)
  | "STRING_AGG" => some (stringAggCall ask)
  | "JSON_OBJECT" | "JSON_OBJECTAGG" => some (jsonObjectCall ask)
  | "CEIL" | "FLOOR" => some (ceilCall ask)
  | "CHAR" | "CHR" => some (chrCall ask)
  | "NORMALIZE" => some (normalizeCall ask)
  | "DECODE" => some (decodeCall ask)
  | "JSON_AGG" => some (jsonAggCall ask)
  | "JSONB_EXISTS" => some (jsonExistsCall ask)
  | "XMLELEMENT" => some (xmlElementCall ask)
  | _ => none

/-! ## Calls -/

/-- The arguments of a function in general, of which a known one takes a certain number. -/
def ordinaryArguments (ask : Ask) (text : String) (anonymous : Bool) : Rule Unit := do
  let known := Arity.isKnown text && !anonymous
  let arguments ← separated (argument ask (!known || text == "STRUCT"))
  if known then
    insist (((Arity.ofName? text).map (·.admits arguments.length)).getD true)

/-- Where a call stands, which decides what may be one. -/
structure CallPlace where
  /-- Whether the functions without brackets count. -/
  bare : Bool
  /-- Whether any name may be that of a function, none being known. -/
  qualified : Bool

/-- A call of a function behind its name and an opening bracket. -/
def callArguments (ask : Ask) (text : String) (isWord : Bool) (place : CallPlace) :
    Rule (Option Node) := do
  match specialCall ask text, place.qualified with
  | some arguments, false =>
    arguments
    closing
    window ask (some (if Arity.aggregates.contains text then .aggregate else .other))
  | _, _ =>
    let quantifies := isWord && Keyword.quantifiers.contains text
    if quantifies && (← sees (isWordIn ["SELECT", "WITH", "FROM"])) then
      let _ ← ask (.query false false true true)
      closing
      pure (some .other)
    else
      ordinaryArguments ask text place.qualified
      closing
      window ask (some (if Arity.aggregates.contains text then .aggregate else .other))

/-- The name of a function, and whether it is a bare word. -/
def functionName : Token → Option (String × Bool)
  | .word text => some (text, true)
  | .quoted text => some (text, false)
  | _ => none

/-- A call of a function. -/
def call (ask : Ask) (place : CallPlace) : Rule (Option Node) := do
  let start ← get
  match start with
  | token :: rest =>
    match functionName token with
    | none => pure none
    | some (text, isWord) =>
      match if place.bare && isWord then wordCall ask text start else none with
      | some found =>
        set rest
        window ask (← found)
      | none =>
        match rest with
        | .symbol "(" :: arguments =>
          if !isWord || (if place.qualified then isAnyName token else Keyword.isCallable text) then
            set arguments
            callArguments ask text isWord place
          else
            pure none
        | _ =>
          if place.bare && isWord && Keyword.ambient.contains text then
            set rest
            pure (some .other)
          else
            pure none
  | [] => pure none

end RideQuery.Sql.Grammar
