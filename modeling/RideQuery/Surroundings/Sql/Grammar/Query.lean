import RideQuery.Surroundings.Sql.Grammar.Source

/-!
# Queries

Queries, bracketed or not, with the queries that have names in front of them.
-/

namespace RideQuery.Sql.Grammar

/-- A query with a name, for the query behind it. -/
def namedQuery (ask : Ask) : Rule (Option Node) := do
  insist (← tableNaming ask .ofNamed).table
  let _ ← word "AS"
  unless ← spelling ["NOT", "MATERIALIZED"] do
    let _ ← spelled ["MATERIALIZED"]
  let _ ← wrapped (need (ask .statement))
  pure (some .other)

/-- The order in which a recursive query finds its rows, if it is named. -/
def searchOrder (ask : Ask) : Rule Unit := do
  let _ ← spelled ["SEARCH"]
  if ← spelled ["BREADTH", "CYCLE", "DEPTH"] then
    let _ ← spelling ["FIRST", "BY"]
    let _ ← need (anyName ask)
    insist (← spelled ["SET"])
    let _ ← need (anyName ask)
    if ← spelled ["USING"] then
      let _ ← anyName ask

/-- Queries with names and the statement that they are for, behind the word. -/
def namedQueries (ask : Ask) : Rule (Option Node) := do
  let _ ← word "RECURSIVE"
  let _ ← namedQuery ask
  iterated
    (fun _ => do
      let comma ← symbol ","
      let again ← word "WITH"
      if comma || again then
        let _ ← namedQuery ask
        pure (some ())
      else
        pure none)
    ()
  searchOrder ask
  let found ← need (ask .statement)
  insist found.takesNamedQueries
  pure (some found)

/-- What a query begins with behind its word: whether rows may repeat. -/
def distinctness (ask : Ask) : Rule Unit := do
  let tokens ← get
  let qualified := match tokens with
    | _ :: second :: _ => isSymbol "." second
    | _ => true
  unless qualified do
    let all ← word "ALL"
    if ← word "DISTINCT" then
      insist !all
      if ← word "ON" then
        let _ ← valueRow ask

/-- A new table that the rows of a query go to. -/
def into (ask : Ask) : Rule Unit := do
  if ← word "INTO" then
    let _ ← wordIn ["TEMP", "TEMPORARY"]
    let _ ← spelled ["UNLOGGED"]
    let _ ← word "TABLE"
    let _ ← need (ask (.table true false .ordinary))

/-- A query behind its first word; `sourced` if its tables came before it. -/
def selection (ask : Ask) (sourced : Bool) : Rule Node := do
  distinctness ask
  if ← word "AS" then
    let _ ← spelled ["STRUCT", "VALUE"]
  let _ ← separated (ask .expression)
  into ask
  unless sourced do
    if ← word "FROM" then
      let _ ← need (ask (.table false false .ordinary))
  tail ask (.ofKind .select)

/-- A query between brackets, the first of which has been read. -/
def bracketedQuery (ask : Ask) (ofTable : Bool) : Rule (Option Node) := do
  let found ←
    if ← word "FROM" then
      let _ ← need (ask (.table false true .ordinary))
      match ← ask (.query false false true true) with
      | some node => pure (some node)
      | none => pure (some (← tail ask (.ofKind .select)))
    else
      let first ←
        if ofTable then ask (.table false false .ordinary)
        else ask (.query true false true false)
      match ← combined ask first with
      | some node => pure (some (← tail ask node))
      | none => pure none
  closing
  pure found

/-- A query between brackets with its name. -/
def subquery (ask : Ask) (found : Option Node) (renamed : Bool) : Rule (Option Node) := do
  match found with
  | none => pure none
  | some _ =>
    iterated (fun _ => pivot ask) ()
    let named ← if renamed then tableAlias ask .ordinary else pure false
    let _ ← sample ask false
    pure (some (.source { kind := .subquery, clauses := [], renamed := named }))

/-- A query; what it may be is said by the goal of the same name. -/
def query (ask : Ask) (nested ofTable renamed sets : Bool) : Rule (Option Node) := do
  if ← word "WITH" then
    namedQueries ask
  else
    let sourced ← word "FROM"
    if sourced then
      let _ ← need (ask (.table false true .ordinary))
    let ending (found : Option Node) : Rule (Option Node) :=
      if sets then combined ask found else pure found
    if ← word "SELECT" then
      ending (some (← selection ask sourced))
    else if ← (if ofTable || nested then symbol "(" else pure false) then
      subquery ask (← bracketedQuery ask ofTable) renamed
    else if ← sees (isWord "VALUES") then
      ending (← valueRows ask)
    else if sourced then
      ending (some (← tail ask (.ofKind .select)))
    else
      pure none

end RideQuery.Sql.Grammar
