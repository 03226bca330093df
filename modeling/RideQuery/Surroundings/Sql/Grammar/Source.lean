import RideQuery.Surroundings.Sql.Grammar.Definition

/-!
# Sources

What rows come from: tables, values, arrays and queries, and what is joined to them.
The clauses behind them may stand in any order, but none of them twice.
-/

namespace RideQuery.Sql.Grammar

/-! ## New names of tables -/

/-- Which new names stand behind a table: one of its own, and others of its columns. -/
structure TableAlias where
  table : Bool
  columns : Bool

/-- The new names of a table and its columns. -/
def tableNaming (ask : Ask) (newNames : NewNames) : Rule TableAlias := do
  if ← seesLimit ask then
    pure { table := false, columns := false }
  else
    let marked ← word "AS"
    let newName ← orElse (name ask marked newNames.admits) do
      pure (if ← takeIf isLiteral then some .other else none)
    let start ← get
    if ← symbol "(" then
      let columns ← separated (parameter ask)
      if columns.isEmpty then set start else closing
      pure { table := newName.isSome, columns := !columns.isEmpty }
    else
      pure { table := newName.isSome, columns := false }

/-- Whether new names of a table or its columns come next. -/
def tableAlias (ask : Ask) (newNames : NewNames) : Rule Bool := do
  let found ← tableNaming ask newNames
  pure (found.table || found.columns)

/-- Rows that become columns or columns that become rows, if they come next. -/
def pivot (ask : Ask) : Rule (Option Unit) := do
  if ← pair (isWordIn ["PIVOT", "UNPIVOT"]) (isSymbol "(") then
    let _ ← separated (do renamed ask false (← ask .bitwise))
    insist (← word "FOR")
    let _ ← ask .column
    insist (← word "IN")
    let _ ← wrapped (separated (ask .expression))
    closing
    unless ← sees (isWordIn ["PIVOT", "UNPIVOT"]) do
      let _ ← tableAlias ask .ordinary
    pure (some ())
  else
    pure none

/-- The elements of an array as rows, if they come next. -/
def unnested (ask : Ask) : Rule (Option Node) := do
  if ← pair (isWord "UNNEST") (isSymbol "(") then
    insist !(← separated (ask .equality)).isEmpty
    closing
    let numbered ← pair (isWord "WITH") (isWord "ORDINALITY")
    let renamed ← tableAlias ask .ordinary
    unless numbered do
      if ← pair (isWord "WITH") (isWord "OFFSET") then
        let _ ← word "AS"
        let _ ← plainName ask
    pure (some (.source { kind := .unnest, clauses := [], renamed }))
  else
    pure none

/-- A row of values, or a single value. -/
def valueRow (ask : Ask) : Rule (Option Node) := do
  if ← symbol "(" then
    let _ ← separated do
      if ← word "DEFAULT" then pure (some .other) else ask .expression
    closing
    pure (some .other)
  else
    ask .expression

/-- Rows of values, if they come next. -/
def valueRows (ask : Ask) : Rule (Option Node) := do
  let derived ← pair (isSymbol "(") (isWord "VALUES")
  let begun ←
    if derived then pure true
    else if ← spelled ["VALUES"] then pure true
    else spelling ["FORMAT", "VALUES"]
  if begun then
    insist !(← separated (valueRow ask)).isEmpty
    let renamed ← tableAlias ask .ordinary
    if derived then closing
    let renamed ← if renamed then pure true else tableAlias ask .ordinary
    pure (some (.source { kind := .values, clauses := [], renamed }))
  else
    pure none

/-- A source whose rows may depend on the tables in front of it, behind its word. -/
def lateralSource (ask : Ask) (applied : Bool) : Rule Node := do
  let found ← ask (.query false true true true)
  let view ← if applied then pure false else word "VIEW"
  unless applied do
    let _ ← word "OUTER"
  let found ←
    match found with
    | some node => pure (some node)
    | none =>
      let first ← orElse (unnested ask)
        (orElse (call ask { bare := true, qualified := false }) (plainName ask))
      iterated
        (fun _ => do
          if ← symbol "." then
            let _ ← need (orElse (call ask { bare := true, qualified := false }) (plainName ask))
            pure (some (some Node.other))
          else
            pure none)
        first
  insist found.isSome
  if view then
    let _ ← plainName ask
    if ← word "AS" then
      let _ ← separated (anyName ask)
  else
    let alreadyRenamed := match found with
      | some (.source source) => source.renamed
      | _ => false
    unless alreadyRenamed do
      let _ ← pair (isWord "WITH") (isWord "ORDINALITY")
      let _ ← tableAlias ask .ordinary
  pure (.ofKind .lateral)

/-- A source whose rows may depend on the tables in front of it, if one comes next. -/
def lateral (ask : Ask) : Rule (Option Node) := do
  if ← pair (isWordIn ["CROSS", "OUTER"]) (isWord "APPLY") then
    pure (some (← lateralSource ask true))
  else if ← word "LATERAL" then
    pure (some (← lateralSource ask false))
  else
    pure none

/-! ## Joins -/

/-- The condition of a join by a condition or by columns, if one comes next. -/
def joinCondition (ask : Ask) : Rule Bool := do
  if ← word "ON" then
    let _ ← ask .disjunction
    pure true
  else if ← word "USING" then
    let _ ← maybeWrapped (separated (ask .column))
    pure true
  else
    pure false

/-- What a table is joined with, and whether its condition may be found behind others. -/
structure Joined where
  awaitsCondition : Bool

/-- The beginning of a join: its words and its table. -/
def joinedTable (ask : Ask) (newNames : NewNames) : Rule (Option Joined) := do
  let start ← get
  let method ← wordIn ["ASOF", "NATURAL", "POSITIONAL"]
  let _ ← wordIn ["LEFT", "RIGHT", "FULL"]
  let straight ← sees (isWord "STRAIGHT_JOIN")
  let cross ← sees (isWord "CROSS")
  let _ ← wordIn ["ANTI", "CROSS", "INNER", "OUTER", "SEMI", "STRAIGHT_JOIN"]
  let join ← word "JOIN"
  let isJoin := join || straight
  unless isJoin do set start
  let applied ← seesApply
  if !isJoin && !applied then
    pure none
  else
    let table ← need (ask (.table false false newNames))
    let unnests := match table with
      | .source source => source.kind == .unnest
      | _ => false
    pure (some { awaitsCondition := isJoin && !method && !cross && !unnests })
where
  /-- Whether a source comes next whose rows depend on the tables in front of it. -/
  seesApply : Rule Bool := do
    match ← get with
    | first :: .word "APPLY" :: _ => pure (isWordIn ["OUTER", "CROSS"] first)
    | _ => pure false

/--
A join, if one comes next.  Joins that follow a table without a condition belong to it
if a condition stands behind them; `limit` bounds their nesting.
-/
def join (ask : Ask) (newNames : NewNames) : Nat → Rule (Option Unit)
  | 0 => failure
  | limit + 1 => do
    if ← symbol "," then
      let table ← attempt (ask (.table false false newNames))
      pure (table.map fun _ => ())
    else
      match ← joinedTable ask newNames with
      | none => pure none
      | some joined =>
        let conditioned ← joinCondition ask
        if !conditioned && joined.awaitsCondition then
          let start ← get
          let nested ← iterated
            (fun _ => do pure ((← join ask newNames limit).map fun _ => true)) false
          let closed ← if nested then joinCondition ask else pure false
          unless closed do set start
        iterated (fun _ => pivot ask) ()
        pure (some ())

/-- All the joins that come next. -/
def joins (ask : Ask) (newNames : NewNames) : Rule Unit := do
  let limit := (← get).length + 1
  iterated (fun _ => join ask newNames limit) ()

/-! ## Clauses of a source -/

/-- A clause that a source does not have yet; one that it has is refused. -/
def nextClause (ask : Ask) (found : List Clause) : Rule (Option (List Clause)) := do
  match ← clause ask with
  | none => pure none
  | some new =>
    insist !((new.head?.map found.contains).getD false)
    pure (some (new ++ found))

/-- A source with the joins and the clauses behind it. -/
def tail (ask : Ask) (node : Node) : Rule Node :=
  match node with
  | .source found =>
    if [SourceKind.select, .union, .subquery, .values, .table].contains found.kind then do
      joins ask .ordinary
      iterated (fun _ => do pure ((← lateral ask).map fun _ => ())) ()
      let clauses ← iterated (nextClause ask) found.clauses
      pure (.source { found with clauses })
    else
      pure node
  | _ => pure node

/-! ## Sources -/

/-- Hints on how a table is read. -/
def tableHints (ask : Ask) : Rule Unit := do
  if ← pair (isWord "WITH") (isSymbol "(") then
    let _ ← separated
      (orElse (call ask { bare := true, qualified := false }) (variableName ask true))
    closing
  else
    iterated
      (fun _ => do
        if ← spelled ["FORCE", "IGNORE", "USE"] then
          let _ ← spelled ["INDEX", "KEY"]
          if ← word "FOR" then
            insist (← takeIf isAnyName)
          let _ ← wrapped (separated (anyName ask))
          pure (some ())
        else
          pure none)
      ()

/-- A table by its name, with all that may stand behind it. -/
def namedTable (ask : Ask) (schema joined : Bool) (newNames : NewNames) : Rule Node := do
  if ← spelling ["ROWS", "FROM"] then
    let _ ← wrapped (separated (ask (.table false false .ordinary)))
  else
    let _ ← word "ONLY"
    let _ ← tableName ask schema
    let _ ← brackets ask (some .other)
  let _ ← spelled ["*"]
  if schema then
    let _ ← listedColumns ask (tail ask)
  else
    let _ ← tableAlias ask newNames
    if ← spelled ["AT"] then
      let _ ← anyName ask
    else
      tableHints ask
      iterated (fun _ => pivot ask) ()
      let _ ← sample ask false
      if joined then
        joins ask .ordinary
      if ← pair (isWord "WITH") (isWord "ORDINALITY") then
        let _ ← tableAlias ask .ordinary
  pure (.ofKind .table)

/-- A table, a query or values that rows come from. -/
def table (ask : Ask) (schema joined : Bool) (newNames : NewNames) : Rule (Option Node) :=
  orElse (lateral ask) (orElse (unnested ask) (orElse (valueRows ask) do
    match ← ask (.query false true true true) with
    | some found =>
      iterated (fun _ => pivot ask) ()
      if joined then
        joins ask .ordinary
      pure (some found)
    | none => pure (some (← namedTable ask schema joined newNames))))

end RideQuery.Sql.Grammar
