import RideQuery.Surroundings.Sql.Grammar.Query

/-!
# Statements

Queries, the statements that change rows or tables, and the commands around them.
A statement that is not known in every detail is accepted as it stands.
-/

namespace RideQuery.Sql.Grammar

/-- Whatever is left of a statement. -/
def remainder : Rule (Option Node) := do
  set ([] : List Token)
  pure (some .other)

/-- The statement as it stands if anything is left of it. -/
def orRemainder (node : Node) : Rule (Option Node) := do
  if ← tokensLeft then remainder else pure (some node)

/-- Whether something must exist or must not. -/
def existence : Rule Unit := do
  unless ← spelling ["IF", "NOT", "EXISTS"] do
    let _ ← spelling ["IF", "EXISTS"]

/-! ## Changing rows -/

/-- What a change returns, if anything. -/
def returning (ask : Ask) : Rule Unit := do
  if ← word "RETURNING" then
    insist !(← separated (ask .expression)).isEmpty
    if ← word "INTO" then
      let _ ← tablePart ask false

/-- What is done about rows that are there already; it may be left out at the end. -/
def conflictAction (ask : Ask) : Rule Unit := do
  if ← tokensLeft then
    let updates ← if ← spelling ["DO", "UPDATE"] then pure true else spelled ["UPDATE"]
    if updates then
      let _ ← word "SET"
      let _ ← separated (ask .equality)
    else
      unless ← spelling ["DO", "NOTHING"] do
        insist (← spelled ["ABORT", "FAIL", "IGNORE", "REPLACE", "ROLLBACK"])

/-- What happens where rows are there already, if it is said. -/
def conflict (ask : Ask) : Rule Unit := do
  let onConflict ← spelling ["ON", "CONFLICT"]
  let begun ← if onConflict then pure true else spelling ["ON", "DUPLICATE", "KEY"]
  if begun then
    if onConflict then
      if ← spelling ["ON", "CONSTRAINT"] then
        let _ ← anyName ask
      else if ← symbol "(" then
        let _ ← separated (ordered ask)
        closing
    whereCondition ask
    conflictAction ask
    whereCondition ask

/-- A query that rows come from, with what may follow it. -/
def rowSource (ask : Ask) : Rule (Option Node) := do
  match ← combined ask (← ask (.query true false false true)) with
  | some found => pure (some (← tail ask found))
  | none => pure none

/-- New rows for a table. -/
def insertion (ask : Ask) : Rule (Option Node) := do
  let _ ← word "OVERWRITE"
  let _ ← spelled ["IGNORE"]
  if ← word "OR" then
    let _ ← spelled ["ABORT", "FAIL", "IGNORE", "REPLACE", "ROLLBACK"]
  let _ ← word "INTO"
  let _ ← word "TABLE"
  if ← word "FUNCTION" then
    let _ ← ask .call
  else
    let _ ← need (ask (.table true false .ordinary))
    if ← sees (isWord "AS") then
      let _ ← tableAlias ask .ordinary
  returning ask
  let _ ← spelling ["BY", "NAME"]
  existence
  if ← pair (isWord "REPLACE") (isWord "WHERE") then
    condition ask
  let _ ← spelling ["DEFAULT", "VALUES"]
  let _ ← orElse (valueRows ask) (rowSource ask)
  conflict ask
  returning ask
  if ← word "TABLE" then
    let _ ← need (ask (.table false false .ordinary))
  pure (some .change)

/-- One part of a change of rows: the new values, or which rows are changed. -/
def updatePart (ask : Ask) : Rule (Option Unit) := do
  if ← word "SET" then
    let _ ← separated (ask .equality)
    pure (some ())
  else if ← sees (isWord "RETURNING") then
    returning ask
    pure (some ())
  else if ← word "FROM" then
    let _ ← need (ask (.table false true .ordinary))
    pure (some ())
  else if ← sees (isWord "WHERE") then
    whereCondition ask
    pure (some ())
  else if ← word "ORDER BY" then
    orderOf ask
    pure (some ())
  else if ← sees (isWord "LIMIT") then
    let _ ← limit ask
    pure (some ())
  else
    pure none

/-- New values in rows of a table. -/
def update (ask : Ask) : Rule (Option Node) := do
  let _ ← need (ask (.table false true .ofChanged))
  iterated (fun _ => updatePart ask) ()
  pure (some .change)

/-- Rows that are taken out of a table. -/
def deletion (ask : Ask) : Rule (Option Node) := do
  unless ← sees (isWord "FROM") do
    let _ ← separated (ask (.table false false .ordinary))
  returning ask
  if ← word "FROM" then
    let _ ← need (ask (.table false true .ordinary))
  if ← word "USING" then
    let _ ← separated (ask (.table false true .ordinary))
  whereCondition ask
  returning ask
  let _ ← order ask none
  let _ ← limit ask
  pure (some .change)

/-- What is done with rows that are matched or not. -/
def mergeAction (ask : Ask) : Rule Unit := do
  if ← word "INSERT" then
    unless ← symbol "*" do
      unless ← spelled ["ROW"] do
        let _ ← valueRow ask
      if ← spelled ["VALUES"] then
        let _ ← valueRow ask
  else if ← word "UPDATE" then
    unless ← symbol "*" do
      if ← word "SET" then
        let _ ← separated (ask .equality)
  else
    unless ← word "DELETE" do
      conflictAction ask

/-- One case of a table being merged into another. -/
def mergeCase (ask : Ask) : Rule (Option Bool) := do
  if ← word "WHEN" then
    let _ ← word "NOT"
    let _ ← spelled ["MATCHED"]
    unless ← spelling ["BY", "TARGET"] do
      let _ ← spelling ["BY", "SOURCE"]
    if ← word "AND" then
      let _ ← ask .disjunction
    let _ ← word "THEN"
    mergeAction ask
    pure (some true)
  else
    pure none

/-- Rows of one table merged into another. -/
def merge (ask : Ask) : Rule (Option Node) := do
  let _ ← word "INTO"
  let _ ← need (ask (.table false false .ordinary))
  let _ ← word "USING"
  let _ ← need (ask (.table false false .ordinary))
  let _ ← word "ON"
  condition ask
  insist (← iterated (fun _ => mergeCase ask) false)
  returning ask
  pure (some .change)

/-! ## Changing tables -/

/-- Tables with commas between their names. -/
def tableNames (ask : Ask) : Rule Unit := do
  let _ ← separated (do pure (some (← tableName ask true)))

/-- What may follow the name of what is taken away. -/
def dropEnd (ask : Ask) : Rule (Option Node) := do
  if ← word "ON" then
    let _ ← anyName ask
  if ← sees (isSymbol "(") then
    let _ ← wrapped (separated (ask (.type false false true)))
  let _ ← spelled ["CASCADE", "RESTRICT"]
  let _ ← spelled ["CONSTRAINTS"]
  let _ ← spelled ["PURGE"]
  pure (some .other)

/-- Tables and the like that are taken away. -/
def drop (ask : Ask) : Rule (Option Node) := do
  let _ ← wordIn ["TEMP", "TEMPORARY"]
  let _ ← spelled ["MATERIALIZED"]
  if ← word "COLUMN" then
    existence
    let _ ← ask .column
    dropEnd ask
  else if ← wordIn Keyword.objects then
    let _ ← spelled ["CONCURRENTLY"]
    existence
    tableNames ask
    dropEnd ask
  else
    remainder

/-- Tables that are emptied. -/
def truncation (ask : Ask) (start : List Token) : Rule (Option Node) := do
  if ← sees (isSymbol "(") then
    set start
    ask .call
  else
    let _ ← word "DATABASE"
    let _ ← word "TABLE"
    existence
    let _ ← separated (ask (.table true false .ordinary))
    orRemainder .other

/-- The definition of a table or a view. -/
def tableDefinition (ask : Ask) : Rule Unit := do
  let _ ← tableName ask true
  let _ ← listedColumns ask (tail ask)
  if ← word "AS" then
    let _ ← rowSource ask

/-- The definition of an index, which need not have a name. -/
def indexDefinition (ask : Ask) : Rule Unit := do
  unless ← word "ON" do
    let _ ← anyName ask
    let _ ← word "ON"
  let _ ← tableName ask true
  indexParameters ask

/-- The definition of a function: its name and its parameters; the rest is not looked at. -/
def functionDefinition (ask : Ask) : Rule Unit := do
  let _ ← tableName ask true
  if ← symbol "(" then
    let _ ← separated (parameter ask)
    closing

/-- Something that is created. -/
def creation (ask : Ask) : Rule (Option Node) := do
  let _ ← pair (isWord "OR") (isWord "REPLACE")
  let _ ← word "UNIQUE"
  let _ ← wordIn ["TEMP", "TEMPORARY"]
  let _ ← spelled ["MATERIALIZED", "UNLOGGED"]
  if ← wordIn ["TABLE", "VIEW"] then
    existence
    tableDefinition ask
  else if ← word "INDEX" then
    let _ ← spelled ["CONCURRENTLY"]
    existence
    indexDefinition ask
  else if ← wordIn ["FUNCTION", "PROCEDURE"] then
    existence
    functionDefinition ask
  else if ← wordIn ["SCHEMA", "DATABASE", "SEQUENCE"] then
    existence
    let _ ← tableName ask true
  else
    let _ ← remainder
  if ← sees (isSymbolIn [")", ","]) then pure (some .change) else orRemainder .change

/-- A table that is altered. -/
def alteration (ask : Ask) : Rule (Option Node) := do
  if ← wordIn ["TABLE", "VIEW", "INDEX"] then
    existence
    let _ ← spelled ["ONLY"]
    let _ ← need (ask (.table true false .ordinary))
  remainder

/-! ## Other statements -/

/-- A setting that is made. -/
def settingItem (ask : Ask) : Rule (Option Node) := do
  let start ← get
  let _ ← spelled ["GLOBAL", "SESSION", "LOCAL"]
  match ← ask .column with
  | none =>
    set start
    pure none
  | some _ =>
    if ← spelled ["=", ":=", "TO"] then
      let _ ← need (orElse (ask .statement) (anyName ask))
      pure (some .other)
    else
      set start
      pure none

/-- The beginning or the end of a transaction. -/
def transaction (ask : Ask) : Rule (Option Node) := do
  let _ ← spelled ["DEFERRED", "IMMEDIATE", "EXCLUSIVE"]
  let _ ← spelled ["TRANSACTION", "WORK"]
  let _ ← separated do
    iterated
      (fun _ => do
        pure (if ← takeIf fun token => isNegation token ||
            (match token with | .word text => Keyword.isPlain text | _ => false) then some ()
          else none))
      ()
    pure (some Node.other)
  if ← spelled ["TO"] then
    let _ ← spelled ["SAVEPOINT"]
    let _ ← anyName ask
  if ← word "AND" then
    let _ ← spelled ["NO"]
    let _ ← spelled ["CHAIN"]
  pure (some .other)

/-- An object that something is said about, behind the word for its kind. -/
def commented (ask : Ask) : Rule Unit := do
  if ← word "TABLE" then
    let _ ← tableName ask true
  else if ← word "COLUMN" then
    let _ ← need (ask .column)
  else if ← wordIn ["FUNCTION", "PROCEDURE"] then
    functionDefinition ask
  else if ← wordIn Keyword.objects then
    let _ ← need (anyName ask)

/-- What is said about a table, a column or another object. -/
def commentOn (ask : Ask) : Rule (Option Node) := do
  existence
  let _ ← word "ON"
  let _ ← spelled ["MATERIALIZED"]
  if ← sees (isWordIn Keyword.objects) then
    commented ask
    let _ ← word "IS"
    let _ ← need (stringLiteral ask)
    pure (some .other)
  else
    remainder

/-- The words that begin a statement other than a query. -/
def statementWords : List String :=
  ["ALTER", "ANALYZE", "BEGIN", "CACHE", "COMMENT", "COMMIT", "COPY", "CREATE", "DELETE", "DESC",
    "DESCRIBE", "DROP", "GRANT", "INSERT", "KILL", "LOAD", "MERGE", "PRAGMA", "ROLLBACK", "SET",
    "TRUNCATE", "UNCACHE", "UPDATE", "USE"]

/-- The statistics of a table. -/
def analysis (ask : Ask) : Rule (Option Node) := do
  let _ ← iterated
    (fun _ => do pure (if ← spelled ["VERBOSE", "FULL", "SKIP_LOCKED"] then some () else none)) ()
  if ← tokensLeft then
    let _ ← wordIn ["TABLE", "INDEX"]
    let _ ← tableName ask false
  pure (some .other)

/-- A table that is kept at hand, possibly with the query that it comes from. -/
def caching (ask : Ask) : Rule (Option Node) := do
  let _ ← spelled ["LAZY"]
  let _ ← word "TABLE"
  let _ ← need (ask (.table true false .ordinary))
  let _ ← word "AS"
  let _ ← ask (.query true false true true)
  pure (some .other)

/-- A table that is kept at hand no longer. -/
def uncaching (ask : Ask) : Rule (Option Node) := do
  insist (← word "TABLE")
  existence
  let _ ← need (ask (.table true false .ordinary))
  pure (some .other)

/-- The rows of a table moved in or out. -/
def copying (ask : Ask) : Rule (Option Node) := do
  let _ ← word "INTO"
  if ← sees (isSymbol "(") then
    let _ ← ask (.query true false false true)
  else
    let _ ← need (ask (.table true false .ordinary))
  remainder

/-- A statement behind its first word; `start` is where that stands. -/
def otherStatement (ask : Ask) (start : List Token) : String → Rule (Option Node)
  | "ALTER" => alteration ask
  | "ANALYZE" => analysis ask
  | "BEGIN" | "COMMIT" | "ROLLBACK" => transaction ask
  | "CACHE" => caching ask
  | "COMMENT" => commentOn ask
  | "COPY" => copying ask
  | "CREATE" => creation ask
  | "DELETE" => deletion ask
  | "DESC" | "DESCRIBE" => do
    if ← sees (isWordIn statementWords) then ask .statement
    else
      let _ ← need (ask (.table true false .ordinary))
      pure (some .other)
  | "DROP" => drop ask
  | "INSERT" => insertion ask
  | "KILL" => do
    let _ ← spelled ["CONNECTION", "QUERY"]
    let _ ← need (ask .operand)
    pure (some .other)
  | "MERGE" => merge ask
  | "PRAGMA" => do
    let _ ← need (ask .expression)
    pure (some .other)
  | "SET" => do
    let _ ← separated (settingItem ask)
    orRemainder .other
  | "TRUNCATE" => truncation ask start
  | "UNCACHE" => uncaching ask
  | "UPDATE" => update ask
  | "USE" => do
    let _ ← spelled ["ROLE", "WAREHOUSE", "DATABASE", "SCHEMA", "CATALOG"]
    let _ ← need (ask (.table false false .ordinary))
    pure (some .other)
  | _ => remainder

/-- A statement; one that is no query and begins with no word of its own is an expression. -/
def statement (ask : Ask) : Rule (Option Node) := do
  let start ← get
  match start with
  | [] => pure none
  | .word text :: rest =>
    if statementWords.contains text then
      set rest
      otherStatement ask start text
    else if Keyword.commands.contains text then
      set rest
      let _ ← stringLiteral ask
      pure (some .other)
    else
      queryStatement ask
  | _ => queryStatement ask
where
  /-- An expression or a query, with what may follow it. -/
  queryStatement (ask : Ask) : Rule (Option Node) := do
    let found ←
      match ← ask .expression with
      | some found => combined ask (some found)
      | none => ask (.query false false true true)
    match found with
    | some node => pure (some (← tail ask node))
    | none => pure none

end RideQuery.Sql.Grammar
