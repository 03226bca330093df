import RideQuery.Surroundings.Sql.Grammar.Operand

/-!
# Expressions

Operands with operators between them, from those that bind most to those that bind
least.  Nearly every operator needs an operand on both sides.
-/

namespace RideQuery.Sql.Grammar

/-! ## Arithmetic -/

/-- Something at another place in time. -/
def atTimeZone (ask : Ask) (found : Option Node) : Rule (Option Node) :=
  iterated
    (fun found => do
      if ← spelling ["AT", "TIME", "ZONE"] then
        insist found.isSome
        let _ ← need (ask .unary)
        pure (some (some .other))
      else
        pure none)
    found

/-- Whether a token is an operator in front of an operand of arithmetic. -/
def isSign (token : Token) : Bool :=
  isSymbolIn ["+", "-", "~", "|/", "||/"] token || isWordIn ["RLIKE", "REGEXP"] token

/-- Whether a token negates what follows. -/
def isNegation (token : Token) : Bool :=
  isWord "NOT" token || isSymbol "!" token

/-- An operand with the operators in front of it. -/
def unary (ask : Ask) : Rule (Option Node) := do
  if ← takeIf isSign then
    let _ ← need (ask .unary)
    pure (some .other)
  else if ← takeIf isNegation then
    let _ ← need (ask .equality)
    pure (some .other)
  else
    atTimeZone ask (← ask .operand)

/-- Powers. -/
def power (ask : Ask) : Rule (Option Node) :=
  joined (isSymbol "^") (unary ask)

/-- Products. -/
def factor (ask : Ask) : Rule (Option Node) :=
  joined (isSymbolIn ["*", "/", "<->"]) (power ask)

/-- Sums, remainders and orders of letters. -/
def term (ask : Ask) : Rule (Option Node) := do
  let first ← factor ask
  iterated
    (fun left => do
      let remainder ← sees (isSymbol "%")
      if ← takeIf fun token => isSymbolIn ["-", "+", "%"] token || isWord "COLLATE" token then
        insist left.isSome
        let _ ← need (factor ask)
        pure (some (some (if remainder then .remainder else .other)))
      else
        pure none)
    first

/-- Reads an operator on bits, or one between texts. -/
def bitwiseOperator : Rule Bool := do
  if ← takeIf (isSymbolIn ["&", "|", "#", "||", "??"]) then pure true
  else if ← pair (isSymbol "<") (isSymbol "<") then pure true
  else pair (isSymbol ">") (isSymbol ">")

/-- Operations on bits, and texts that are joined. -/
def bitwise (ask : Ask) : Rule (Option Node) := do
  let first ← term ask
  iterated
    (fun left => do
      if ← bitwiseOperator then
        insist left.isSome
        let _ ← need (term ask)
        pure (some (some .other))
      else
        pure none)
    first

/-! ## Tests -/

/-- The escape character of a pattern, if one is named. -/
def patternEscape (ask : Ask) : Rule Unit := do
  if ← word "ESCAPE" then
    let _ ← need (orElse (stringLiteral ask) do
      pure (if ← wordIn ["NULL", "UNKNOWN"] then some .other else none))

/-- Whether a token is an operator that compares with a pattern, a range or a set. -/
def isPatternOperator (token : Token) : Bool :=
  isWordIn ["GLOB", "ILIKE", "LIKE", "OVERLAPS", "REGEXP", "RLIKE", "SIMILAR TO"] token ||
    isSymbolIn ["@>", "<@", "~", "~*", "~~", "~~*", "~~~", "?&", "?|", "#-", "-|-", "&<", "&>",
      "&&", "@@"] token

/-- A test between two bounds, behind its word. -/
def between (ask : Ask) (found : Option Node) : Rule (Option Node) := do
  let _ ← spelled ["SYMMETRIC", "ASYMMETRIC"]
  let low ← bitwise ask
  let _ ← word "AND"
  let high ← bitwise ask
  insist (found.isSome && low.isSome && high.isSome)
  pure (some .other)

/-- The entries of a set that something is sought in, behind the opening bracket. -/
def setEntries (ask : Ask) (tail : QueryTail) : Rule Unit := do
  let entries ← separated (queryOrExpression ask false)
  match entries with
  | [.source found] =>
    let _ ← tail (.source found)
  | _ => pure ()

/-- A test of membership, behind its word. -/
def member (ask : Ask) (tail : QueryTail) : Rule (Option Node) := do
  if ← pair (isWord "UNNEST") (isSymbol "(") then
    insist !(← separated (ask .equality)).isEmpty
    closing
  else if ← symbol "(" then
    setEntries ask tail
    closing
  else if ← symbol "[" then
    setEntries ask tail
    insist (← symbol "]")
  else
    let _ ← ask .column
  pure (some .other)

/-- A test of what something is, behind its word; `start` is where that stands. -/
def isTest (ask : Ask) (tail : QueryTail) (start : List Token) (found : Option Node) :
    Rule (Option Node) := do
  let _ ← takeIf isNegation
  if ← spelling ["DISTINCT", "FROM"] then
    let _ ← need (bitwise ask)
    insist found.isSome
    pure (some .other)
  else
    let tested ←
      if ← word "JSON" then
        let _ ← spelled ["ARRAY", "OBJECT", "SCALAR", "VALUE"]
        unless ← spelled ["WITH"] do
          let _ ← spelled ["WITHOUT"]
        let _ ← word "UNIQUE"
        let _ ← spelled ["KEYS"]
        pure (some Node.other)
      else if ← wordIn ["NULL", "UNKNOWN"] then
        pure (some .other)
      else
        bitwise ask
    match tested with
    | none =>
      set start
      pure none
    | some _ =>
      insist found.isSome
      columnTail ask tail (some .other)

/-- An operator that is named, behind its word. -/
def namedOperator (ask : Ask) (found : Option Node) : Rule (Option Node) := do
  let once (found : Option Node) : Rule (Option (Option Node)) := do
    if ← symbol "(" then
      let tokens ← get
      let operator := tokens.takeWhile fun token => token != .symbol ")"
      set (tokens.drop (operator.length + 1))
      let _ ← need (bitwise ask)
      insist found.isSome
      pure (some (some .other))
    else
      pure none
  match ← once found with
  | none => pure found
  | some first =>
    iterated
      (fun found => do
        if ← word "OPERATOR" then once found else pure none)
      first

/-- The members that something is computed for, behind its word. -/
def comprehension (ask : Ask) (start : List Token) (found : Option Node) :
    Rule (Option Node) := do
  let _ ← ask .column
  if ← symbol "," then
    let _ ← ask .column
  if ← word "IN" then
    let _ ← need (ask .column)
    if ← spelled ["IF"] then
      let _ ← ask .disjunction
    insist found.isSome
    pure (some .other)
  else
    set start
    pure none

/-- What came of a test: none was there, its word was none after all, or it was read. -/
inductive Tested where
  | absent
  | failed
  | passed (node : Node)

/-- What came of a test whose word has been read. -/
def Tested.ofOption : Option Node → Tested
  | some node => .passed node
  | none => .failed

/-- A test of something, if one comes next. -/
def rangeTest (ask : Ask) (tail : QueryTail) (found : Option Node) : Rule Tested := do
  let start ← get
  if ← takeIf isPatternOperator then
    insist found.isSome
    let _ ← need (bitwise ask)
    patternEscape ask
    pure (.passed .other)
  else if ← word "BETWEEN" then pure (.ofOption (← between ask found))
  else if ← word "IN" then pure (.ofOption (← member ask tail))
  else if ← word "IS" then pure (.ofOption (← isTest ask tail start found))
  else if ← word "FOR" then pure (.ofOption (← comprehension ask start found))
  else if ← word "OPERATOR" then pure (.ofOption (← namedOperator ask found))
  else pure .absent

/-- The tests that may stand behind another one or by themselves. -/
def rangeEnd (ask : Ask) (tail : QueryTail) (found : Option Node) : Rule (Option Node) := do
  let found ←
    if ← word "NOTNULL" then
      insist found.isSome
      pure (some .other)
    else
      pure found
  let start ← get
  if ← word "IS" then isTest ask tail start found else pure found

/-- Something with a test behind it, which may be negated. -/
def range (ask : Ask) (tail : QueryTail) : Rule (Option Node) := do
  let found ← bitwise ask
  let negated ← takeIf isNegation
  match ← rangeTest ask tail found with
  | .failed => pure found
  | .passed node => rangeEnd ask tail (some node)
  | .absent =>
    if ← takeIf fun token => isWord "ISNULL" token || (negated && isWord "NULL" token) then
      insist found.isSome
      rangeEnd ask tail (some .other)
    else
      rangeEnd ask tail found

/-! ## Logic -/

/-- Comparisons of what comes first. -/
def comparison (ask : Ask) (tail : QueryTail) : Rule (Option Node) :=
  joined (isSymbolIn [">", ">=", "<", "<="]) (range ask tail)

/-- Comparisons of what is the same. -/
def equality (ask : Ask) (tail : QueryTail) : Rule (Option Node) :=
  joined (isSymbolIn ["=", "==", "<>", "!=", "<=>"]) (comparison ask tail)

/-- Conditions that all hold. -/
def conjunction (ask : Ask) (tail : QueryTail) : Rule (Option Node) :=
  joined (isWord "AND") (equality ask tail)

/-- Conditions of which one holds. -/
def disjunction (ask : Ask) (tail : QueryTail) : Rule (Option Node) :=
  joined (isWord "OR") (conjunction ask tail)

/-- An expression or the assignment of one. -/
def assignment (ask : Ask) (tail : QueryTail) : Rule (Option Node) := do
  let first ← disjunction ask tail
  let assigned ← match first, ← get with
    | none, _ :: .symbol ":=" :: rest =>
      set (Token.symbol ":=" :: rest)
      pure (some .other)
    | found, _ => pure found
  iterated
    (fun left => do
      if ← symbol ":=" then
        insist left.isSome
        let _ ← need (disjunction ask tail)
        pure (some (some .other))
      else
        pure none)
    assigned

/-- An expression, possibly with a name of its own. -/
def expression (ask : Ask) : Rule (Option Node) := do
  renamed ask false (← ask .assignment)

end RideQuery.Sql.Grammar
