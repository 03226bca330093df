import RideQuery.Surroundings.Sql.Grammar.Name

/-!
# Clauses

Orders and limits, names given to expressions and tables, and the combination of
queries.  `LIMIT` and `OFFSET` are also names, so they begin a clause only where one
can be read.
-/

namespace RideQuery.Sql.Grammar

/-! ## Orders -/

/-- What a rule finds, with the direction that it is ordered in. -/
def directed (ask : Ask) (rule : Rule (Option Node)) : Rule (Option Node) := do
  match ← rule with
  | none => pure none
  | some _ =>
    let _ ← word "ASC"
    let _ ← word "DESC"
    let _ ← spelling ["NULLS", "FIRST"]
    let _ ← spelling ["NULLS", "LAST"]
    if ← spelling ["WITH", "FILL"] then
      if ← word "FROM" then let _ ← ask .bitwise
      if ← spelled ["TO"] then let _ ← ask .bitwise
      if ← spelled ["STEP"] then let _ ← ask .bitwise
    pure (some .other)

/-- An expression with the direction that it is ordered in. -/
def ordered (ask : Ask) : Rule (Option Node) :=
  directed ask (ask .disjunction)

/-- An order behind its keyword; it orders by something. -/
def orderOf (ask : Ask) : Rule Unit := do
  insist !(← separated (ordered ask)).isEmpty

/-- An order of something, if one comes next. -/
def order (ask : Ask) (found : Option Node) : Rule (Option Node) := do
  if ← word "ORDER BY" then
    orderOf ask
    pure (some .other)
  else
    pure found

/-! ## Limits -/

/-- A limit that has been read, and whether an offset came with it. -/
structure Limit where
  offset : Bool

/-- What may be said about the rows of a limit. -/
def limitOptions : Rule Unit := do
  let _ ← takeIf fun token => isWord "PERCENT" token || isSymbol "%" token
  let _ ← wordIn ["ROW", "ROWS"]
  let _ ← spelled ["ONLY"]
  let _ ← spelling ["WITH", "TIES"]

/-- The columns that a limit is counted by. -/
def limitBy (ask : Ask) : Rule Unit := do
  if ← spelled ["BY"] then
    let _ ← separated (ask .bitwise)

/-- The number of a limit; a remainder is taken for a percentage. -/
def limitCount (ask : Ask) : Rule (Option Node) := do
  let start ← get
  match ← attempt (ask .term) with
  | some .remainder =>
    set start
    ask .factor
  | some found => pure (some found)
  | none => ask .factor

/-- The number of rows to fetch. -/
def fetchCount (ask : Ask) : Rule (Option Node) := do
  if ← takeIf fun token => isLiteral token || token == .coded || token == .number then
    pure (some .number)
  else if ← sees (isSymbol "(") then
    ask .operand
  else
    orElse (ask .call) (name ask false Keyword.isRowCount)

/-- A limit in either spelling, if one comes next. -/
def limit (ask : Ask) : Rule (Option Limit) := do
  if ← word "LIMIT" then
    let count ← limitCount ask
    limitOptions
    let offset ← symbol ","
    if offset then
      let _ ← need (ask .term)
    else
      insist count.isSome
    limitBy ask
    pure (some { offset := offset && count.isSome })
  else if ← word "FETCH" then
    let _ ← wordIn ["FIRST", "NEXT"]
    let _ ← fetchCount ask
    limitOptions
    pure (some { offset := false })
  else
    pure none

/-- An offset, if one comes next. -/
def offset (ask : Ask) : Rule (Option Node) := do
  if ← word "OFFSET" then
    let _ ← need (ask .term)
    let _ ← wordIn ["ROW", "ROWS"]
    limitBy ask
    pure (some .other)
  else
    pure none

/-- Whether a limit or an offset can be read where its keyword might also be a name. -/
def seesLimit (ask : Ask) : Rule Bool := do
  if ← sees (isWordIn ["LIMIT", "OFFSET"]) then
    let start ← get
    let limited := (← attempt (limit ask)).isSome
    let found ← if limited then pure true else do pure (← attempt (offset ask)).isSome
    set start
    pure found
  else
    pure false

/-! ## New names -/

/-- Something with a name of its own behind it; only behind `AS` if `explicit`. -/
def renamed (ask : Ask) (explicit : Bool) (found : Option Node) : Rule (Option Node) := do
  if ← seesLimit ask then
    pure found
  else
    let marked ← word "AS"
    if explicit && !marked then
      pure found
    else if ← symbol "(" then
      let names ← separated (name ask marked Keyword.isName)
      insist (found.isSome && !names.isEmpty)
      closing
      pure (some .other)
    else
      match ← name ask marked Keyword.isName with
      | some _ =>
        insist found.isSome
        pure (some .other)
      | none => pure found

/-! ## Combined queries -/

/-- The words that may stand in front of `JOIN`, and in front of a combination. -/
def joinKind : Rule Unit := do
  let _ ← wordIn ["ASOF", "NATURAL", "POSITIONAL"]
  let _ ← wordIn ["LEFT", "RIGHT", "FULL"]
  let _ ← wordIn ["ANTI", "CROSS", "INNER", "OUTER", "SEMI", "STRAIGHT_JOIN"]

/-- Another query that a query is combined with, if one comes next. -/
def combination (ask : Ask) : Rule (Option Node) := do
  let start ← get
  joinKind
  if ← wordIn ["UNION", "INTERSECT", "EXCEPT"] then
    unless ← word "DISTINCT" do
      let _ ← word "ALL"
    let byName ←
      if ← spelling ["BY", "NAME"] then pure true else spelling ["STRICT", "CORRESPONDING"]
    let byName := (← spelled ["CORRESPONDING"]) || byName
    if byName then
      if ← spelled ["ON", "BY"] then
        let _ ← wrapped (separated (ask .column))
    let right ← need (ask (.query true false true false))
    let clauses := match right with
      | .source found => found.clauses.filter [Clause.order, .limit, .offset].contains
      | _ => []
    pure (some (.source { kind := .union, clauses, renamed := false }))
  else
    set start
    pure none

/-- A query with the queries that it is combined with. -/
def combined (ask : Ask) (found : Option Node) : Rule (Option Node) :=
  match found with
  | none => pure none
  | some query => do
    pure (some (← iterated (fun _ => combination ask) query))

/-- An expression or a query, as the arguments of functions are. -/
def queryOrExpression (ask : Ask) (named : Bool) : Rule (Option Node) :=
  orElse (ask (.query false false true true)) do
    let found ← ask .assignment
    combined ask (← if named then renamed ask true found else pure found)

end RideQuery.Sql.Grammar
