import RideQuery.Surroundings.Sql.Grammar.Expression

/-!
# Clauses of a query

What may stand behind the tables of a query: conditions, groups, named windows,
orders, limits, locks and samples.
-/

namespace RideQuery.Sql.Grammar

/-- A condition behind its word. -/
def condition (ask : Ask) : Rule Unit := do
  let _ ← need (ask .disjunction)

/-- The condition behind `WHERE`, if one comes next. -/
def whereCondition (ask : Ask) : Rule Unit := do
  if ← word "WHERE" then
    condition ask

/-- Groups for every subset or for every beginning of some columns. -/
def cube (ask : Ask) (behindWith : Bool) : Rule Bool := do
  if ← wordIn ["CUBE", "ROLLUP"] then
    unless behindWith do
      let _ ← wrapped (separated (ask .bitwise))
    pure true
  else
    pure false

/-- A set of columns to group by. -/
def groupingSet (ask : Ask) : Rule (Option Node) := do
  if ← cube ask false then pure (some .other) else ask .bitwise

/-- The words that begin a clause. -/
def clauseWords : List String :=
  ["WHERE", "GROUP BY", "HAVING", "QUALIFY", "WINDOW", "ORDER BY", "LIMIT", "FETCH", "OFFSET",
    "FOR", "LOCK", "TABLESAMPLE", "USING", "CLUSTER BY", "DISTRIBUTE BY", "SORT BY",
    "CONNECT BY", "START WITH"]

/-- One round of groups: columns, then a cube or sets of columns; none if nothing was read. -/
def groupRound (ask : Ask) : Rule (Option Unit) := do
  let start ← get
  let _ ← separated do
    if ← sees (isWordIn ["CUBE", "ROLLUP"]) then pure none else ask .disjunction
  let before ← get
  let behindWith ← word "WITH"
  let cubed ← cube ask behindWith
  unless cubed do
    if ← word "GROUPING SETS" then
      insist !(← wrapped (separated (groupingSet ask))).isEmpty
    else
      let _ ← spelled ["TOTALS"]
  let behind ← get
  if before.length ≤ behind.length + 1 then
    set before
    pure none
  else if start.length == behind.length then
    pure none
  else
    pure (some ())

/-- The groups of a query, behind the word. -/
def groups (ask : Ask) : Rule Unit := do
  unless ← word "ALL" do
    let _ ← word "DISTINCT"
  unless ← sees (isWordIn clauseWords) do
    iterated (fun _ => groupRound ask) ()

/-- One wish to keep rows from others; none if there is none. -/
def lock (ask : Ask) : Rule (Option Unit) := do
  let spellings :=
    [["FOR", "UPDATE"], ["FOR", "SHARE"], ["LOCK", "IN", "SHARE", "MODE"],
      ["FOR", "KEY", "SHARE"], ["FOR", "NO", "KEY", "UPDATE"]]
  let rec first : List (List String) → Rule Bool
    | [] => pure false
    | texts :: rest => do
      if ← spelling texts then pure true else first rest
  if ← first spellings then
    if ← spelled ["OF"] then
      let _ ← separated (ask (.table true false .ordinary))
    unless ← spelled ["NOWAIT"] do
      if ← spelled ["WAIT"] then
        let _ ← ask .operand
      else
        let _ ← spelling ["SKIP", "LOCKED"]
    pure (some ())
  else
    pure none

/-- The number of a sample with what it counts. -/
def sampleSize (ask : Ask) : Rule Unit := do
  if ← sees (· == .number) then
    let _ ← ask .factor
  else
    unless ← takeIf fun token => isLiteral token || token == .coded do
      let _ ← ask .placeholder
  unless ← takeIf fun token => isWord "PERCENT" token || isSymbol "%" token do
    let _ ← word "ROWS"

/-- A sample of the rows, if one comes next. -/
def sample (ask : Ask) (clause : Bool) : Rule Bool := do
  let begun ← word "TABLESAMPLE"
  let begun ← if begun || !clause then pure begun else spelling ["USING", "SAMPLE"]
  if begun then
    unless ← word "ROW" do
      let _ ← variableName ask false
    let bracketed ← symbol "("
    sampleSize ask
    if bracketed then closing
    if ← symbol "(" then
      let _ ← variableName ask false
      if ← symbol "," then
        let _ ← takeIf (· == .number)
      closing
    else if ← spelled ["SEED", "REPEATABLE"] then
      wrapped (do let _ ← takeIf (· == .number))
  pure begun

/-- A window with its name. -/
def namedWindow (ask : Ask) : Rule (Option Node) := do
  let _ ← need (plainName ask)
  let _ ← word "AS"
  windowOf ask (some .other)

/-- The rows that a query descends through, behind one of its words. -/
def hierarchy (ask : Ask) (started : Bool) : Rule Unit := do
  if started then
    let _ ← ask .disjunction
    let _ ← word "CONNECT BY"
  let _ ← spelled ["NOCYCLE"]
  condition ask
  unless started do
    if ← word "START WITH" then
      condition ask

/-- A clause, if one comes next; a limit may bring an offset with it. -/
def clause (ask : Ask) : Rule (Option (List Clause)) := do
  if ← word "WHERE" then
    condition ask
    pure (some [.condition])
  else if ← word "GROUP BY" then
    groups ask
    pure (some [.grouping])
  else if ← word "HAVING" then
    condition ask
    pure (some [.groupCondition])
  else if ← word "QUALIFY" then
    condition ask
    pure (some [.qualification])
  else if ← word "WINDOW" then
    pure (if (← separated (namedWindow ask)).isEmpty then none else some [.windows])
  else if ← word "ORDER BY" then
    orderOf ask
    pure (some [.order])
  else if ← word "CLUSTER BY" then
    orderOf ask
    pure (some [.cluster])
  else if ← word "DISTRIBUTE BY" then
    orderOf ask
    pure (some [.distribution])
  else if ← word "SORT BY" then
    orderOf ask
    pure (some [.sorting])
  else if ← word "CONNECT BY" then
    hierarchy ask false
    pure (some [.hierarchy])
  else if ← word "START WITH" then
    hierarchy ask true
    pure (some [.hierarchy])
  else
    match ← limit ask with
    | some found => pure (some (if found.offset then [.limit, .offset] else [.limit]))
    | none =>
      if (← offset ask).isSome then pure (some [.offset])
      else if ← sample ask true then pure (some [.sample])
      else
        match ← lock ask with
        | none => pure none
        | some _ =>
          iterated (fun _ => lock ask) ()
          pure (some [.locks])

end RideQuery.Sql.Grammar
