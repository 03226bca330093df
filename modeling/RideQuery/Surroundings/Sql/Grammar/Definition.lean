import RideQuery.Surroundings.Sql.Grammar.QueryClause

/-!
# Definitions

Names of tables and the columns, constraints and indexes that are described behind
them.
-/

namespace RideQuery.Sql.Grammar

/-! ## Names of tables -/

/-- A part of the name of a table: a call, a name or a literal. -/
def tablePart (ask : Ask) (schema : Bool) : Rule (Option Node) :=
  orElse (whenever (!schema) (call ask { bare := false, qualified := false })) do
    orElse (plainName ask) do
      pure (if ← takeIf isLiteral then some .other else none)

/-- The name of a table; a middle part of it may be left out. -/
def tableName (ask : Ask) (schema : Bool) : Rule Node := do
  let first ← tablePart ask schema
  let last ← iterated
    (fun _ => do
      if ← symbol "." then
        pure (some (← tablePart ask schema))
      else
        pure none)
    first
  insist last.isSome
  pure (.ofKind .table)

/-! ## Indexes -/

/-- What an index is ordered by, possibly with the class of its operators. -/
def indexKey (ask : Ask) : Rule (Option Node) := do
  let key ← ask .disjunction
  let ends ← sees fun token =>
    isSpelled ["ASC", "DESC", "NULLS", "WITH"] token || isSymbolIn [",", ")"] token
  unless ends do
    insist key.isSome
    let _ ← tableName ask false
  pure key

/-- A column of an index, possibly with the operator that tells its values apart. -/
def indexColumn (ask : Ask) : Rule (Option Node) := do
  let column ← directed ask (indexKey ask)
  if ← word "WITH" then
    insist (column.isSome && (← takeIf fun _ => true))
  pure column

/-- How an index is kept: its method, its columns, and the rows that it holds. -/
def indexParameters (ask : Ask) : Rule Unit := do
  if ← word "USING" then
    let _ ← variableName ask true
  if ← sees (isSymbol "(") then
    let _ ← wrapped (separated (indexColumn ask))
  if ← spelled ["INCLUDE"] then
    let _ ← wrapped (separated (anyName ask))
  if ← word "PARTITION BY" then
    let _ ← separated (ask .disjunction)
  if ← word "WITH" then
    let _ ← wrapped (separated (ask .equality))
  if ← spelling ["USING", "INDEX", "TABLESPACE"] then
    let _ ← variableName ask true
  whereCondition ask

/-! ## Columns and their constraints -/

/-- What happens to a row when the one that it refers to changes. -/
def referenceAction : Rule Unit := do
  let _ ← wordIn ["DELETE", "UPDATE"]
  unless ← spelling ["NO", "ACTION"] do
    unless ← spelling ["SET", "NULL"] do
      unless ← spelling ["SET", "DEFAULT"] do
        let _ ← spelled ["CASCADE", "RESTRICT"]

/-- When and how a key is enforced. -/
def keyOptions : Rule Unit :=
  iterated
    (fun _ => do
      if ← word "ON" then
        referenceAction
        pure (some ())
      else if ← spelling ["NOT", "ENFORCED"] then pure (some ())
      else if ← spelling ["NOT", "DEFERRABLE"] then pure (some ())
      else if ← spelled ["DEFERRABLE"] then pure (some ())
      else if ← spelled ["INITIALLY"] then
        let _ ← spelled ["DEFERRED", "IMMEDIATE"]
        pure (some ())
      else pure none)
    ()

/-- The columns of a key, if they come next. -/
def keyColumns (ask : Ask) : Rule Unit := do
  if ← sees (isSymbol "(") then
    let _ ← wrapped (separated (ask .column))

/-- How the values of a column are made. -/
def generated (ask : Ask) : Rule Unit := do
  unless ← spelled ["ALWAYS"] do
    let _ ← spelling ["BY", "DEFAULT"]
  let _ ← word "AS"
  let _ ← spelled ["IDENTITY"]
  if ← sees (isSymbol "(") then
    let _ ← wrapped (separated (ask .expression))
  let _ ← spelled ["STORED"]

/-- A condition on a column of a table that is being described. -/
def columnConstraint (ask : Ask) : Rule (Option Node) := do
  let start ← get
  if ← word "CONSTRAINT" then
    let _ ← anyName ask
  if ← word "CHECK" then
    let _ ← wrapped (need (ask .assignment))
    pure (some .other)
  else if ← word "COLLATE" then
    let _ ← need (ask .column)
    pure (some .other)
  else if ← word "DEFAULT" then
    let _ ← need (ask .bitwise)
    pure (some .other)
  else if ← spelling ["NOT", "NULL"] then
    pure (some .other)
  else if ← word "NULL" then
    pure (some .other)
  else if ← word "PRIMARY KEY" then
    keyColumns ask
    let _ ← wordIn ["ASC", "DESC"]
    keyOptions
    pure (some .other)
  else if ← word "UNIQUE" then
    let _ ← spelled ["KEY", "INDEX"]
    keyColumns ask
    keyOptions
    pure (some .other)
  else if ← word "REFERENCES" then
    let _ ← ask (.table true false .ordinary)
    keyOptions
    pure (some .other)
  else if ← spelled ["GENERATED"] then
    generated ask
    pure (some .other)
  else
    set start
    pure none

/-- A column that is being described, behind its name. -/
def columnTypeOf (ask : Ask) (found : Option Node) : Rule (Option Node) := do
  let type ← ask (.type false true true)
  let constrained ← iterated
    (fun _ => do pure ((← columnConstraint ask).map fun _ => true)) false
  pure (if type.isSome || constrained then some .other else found)

/-- A name with the type that it stands for. -/
def parameter (ask : Ask) : Rule (Option Node) := do
  let found ← anyName ask
  let _ ← word "AS"
  columnTypeOf ask found

/-- A condition on a table that is being described. -/
def tableConstraint (ask : Ask) : Rule (Option Node) := do
  if ← word "CONSTRAINT" then
    let _ ← anyName ask
  if ← sees (isWordIn ["CHECK", "PRIMARY KEY", "UNIQUE"]) then
    columnConstraint ask
  else if ← word "FOREIGN KEY" then
    let _ ← wrapped (separated (anyName ask))
    let _ ← columnConstraint ask
    pure (some .other)
  else if ← word "LIKE" then
    let _ ← need (ask (.table true false .ordinary))
    iterated
      (fun _ => do
        if ← spelled ["EXCLUDING", "INCLUDING"] then
          pure ((← anyName ask).map fun _ => ())
        else
          pure none)
      ()
    pure (some .other)
  else if ← word "EXCLUDE" then
    indexParameters ask
    pure (some .other)
  else
    pure none

/-- The columns that are listed behind a table, unless a query stands there. -/
def listedColumns (ask : Ask) (tail : QueryTail) : Rule Bool := do
  let start ← get
  if ← symbol "(" then
    if ← sees fun token => isSymbol "(" token || isWordIn ["WITH", "SELECT"] token then
      set start
      pure false
    else
      let _ ← separated (orElse (tableConstraint ask) do
        columnTypeOf ask (← field ask tail { any := true, anonymous := false }))
      closing
      pure true
  else
    pure false

end RideQuery.Sql.Grammar
