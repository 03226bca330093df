import RideQuery.Surroundings.Sql.Token

/-!
# Rules

A rule reads what it recognises off the front of the tokens.  There are two ways for
it not to: it may find nothing, which leaves the choice to other rules, or refuse,
which ends the whole reading.  Rules that need one another ask by naming a goal.
-/

namespace RideQuery.Sql.Grammar

/-- A rule: what it finds and the tokens left, unless it refuses. -/
abbrev Rule (α : Type) := StateT (List Token) Option α

/-! ## What is found -/

/-- The clauses of a query, each of which may stand only once. -/
inductive Clause where
  | condition | grouping | groupCondition | qualification | windows | order | limit | offset
  | locks | sample | cluster | distribution | sorting | hierarchy
  deriving DecidableEq

/-- The kinds of things that rows come from. -/
inductive SourceKind where
  | select | union | subquery | values | table | unnest | lateral
  deriving DecidableEq

/-- Something that rows come from. -/
structure Source where
  kind : SourceKind
  clauses : List Clause
  renamed : Bool

/-- What a rule has found, as far as other rules look at it. -/
inductive Node where
  /-- A name, in capitals; `bare` if it has no quotation marks and nothing in front of it. -/
  | name (text : String) (bare : Bool)
  | literal (text : String)
  | number
  /-- A remainder, which is written like a percentage. -/
  | remainder
  | aggregate
  /-- An aggregate between brackets. -/
  | bracketedAggregate
  /-- The keyword `INTERVAL` behind which `END` was read as a span. -/
  | endSpan
  /-- A type; `arguments` if there are any behind its name. -/
  | type (arguments : Bool)
  | source (source : Source)
  /-- A statement that named queries may stand in front of. -/
  | change
  | other

/-- A source of a kind, with nothing said about it yet. -/
def Node.ofKind (kind : SourceKind) : Node :=
  .source { kind, clauses := [], renamed := false }

/-- Whether named queries may stand in front of something. -/
def Node.takesNamedQueries : Node → Bool
  | .source found => [SourceKind.select, .union, .subquery].contains found.kind
  | .change => true
  | _ => false

/-! ## Goals -/

/-- Which words may name a table anew: fewer where the table is changed, more in `WITH`. -/
inductive NewNames where
  | ordinary | ofChanged | ofNamed
  deriving DecidableEq

/-- Whether a word may name a table anew. -/
def NewNames.admits : NewNames → String → Bool
  | .ordinary => Keyword.isTableName
  | .ofChanged => Keyword.isChangedTableName
  | .ofNamed => Keyword.isName

/-- What rules ask one another for. -/
inductive Goal where
  | statement
  /-- An expression, possibly with a name of its own. -/
  | expression
  | assignment
  | disjunction
  | equality
  | bitwise
  | term
  | factor
  | unary
  /-- An operand without operators in front of it. -/
  | operand
  | column
  | call
  | placeholder
  /-- A query; `nested` or `table` if it may be bracketed, `sets` if others may follow. -/
  | query (nested table renamed sets : Bool)
  /-- A table; `schema` if columns may be listed, `joins` if joined tables may follow. -/
  | table (schema joins : Bool) (newNames : NewNames)
  /-- A type; `checked` if it must not be a call, `named` if it may be one of the user's. -/
  | type (checked schema named : Bool)

/-- How rules ask one another. -/
abbrev Ask := Goal → Rule (Option Node)

/-! ## Single tokens -/

/-- Reads the next token if it is of some kind. -/
def takeIf (p : Token → Bool) : Rule Bool := fun tokens =>
  match tokens with
  | token :: rest => some (if p token then (true, rest) else (false, tokens))
  | [] => some (false, [])

/-- Whether the next token is of some kind. -/
def sees (p : Token → Bool) : Rule Bool := do
  pure (((← get).head?.map p).getD false)

/-- Whether a token is a given word. -/
def isWord (text : String) (token : Token) : Bool :=
  token == .word text

/-- Whether a token is one of some words. -/
def isWordIn (texts : List String) : Token → Bool
  | .word text => texts.contains text
  | _ => false

/-- Whether a token is a given operator. -/
def isSymbol (text : String) (token : Token) : Bool :=
  token == .symbol text

/-- Whether a token is one of some operators. -/
def isSymbolIn (texts : List String) : Token → Bool
  | .symbol text => texts.contains text
  | _ => false

/-- Whether a token is a literal between single quotes. -/
def isLiteral : Token → Bool
  | .literal _ => true
  | _ => false

/-- Whether a token is spelled like one of some words, be it a quoted name. -/
def isSpelled (texts : List String) : Token → Bool
  | .word text => texts.contains text
  | .quoted text => texts.contains text
  | .symbol text => texts.contains text
  | _ => false

/-- Reads a word. -/
def word (text : String) : Rule Bool := takeIf (isWord text)

/-- Reads one of some words. -/
def wordIn (texts : List String) : Rule Bool := takeIf (isWordIn texts)

/-- Reads an operator or a bracket. -/
def symbol (text : String) : Rule Bool := takeIf (isSymbol text)

/-- Reads a token that is spelled like one of some words. -/
def spelled (texts : List String) : Rule Bool := takeIf (isSpelled texts)

/-- Reads two tokens, or none. -/
def pair (first second : Token → Bool) : Rule Bool := fun tokens =>
  match tokens with
  | a :: b :: rest => some (if first a && second b then (true, rest) else (false, tokens))
  | _ => some (false, tokens)

/-- Reads tokens with given spellings one behind the other, or none. -/
def spelling (texts : List String) : Rule Bool := fun tokens =>
  let found := tokens.take texts.length
  if found.length == texts.length && (found.zip texts).all fun (token, text) =>
      isSpelled [text] token then
    some (true, tokens.drop texts.length)
  else
    some (false, tokens)

/-- Whether there are tokens left. -/
def tokensLeft : Rule Bool := do
  pure !(← get).isEmpty

/-! ## Combining rules -/

/-- Refuses unless a condition holds. -/
def insist (condition : Bool) : Rule Unit :=
  if condition then pure () else failure

/-- Refuses unless a rule finds something. -/
def need {α : Type} (rule : Rule (Option α)) : Rule α := do
  match ← rule with
  | some found => pure found
  | none => failure

/-- What a rule finds; a rule that finds nothing or refuses has read nothing. -/
def attempt {α : Type} (rule : Rule (Option α)) : Rule (Option α) := fun tokens =>
  match rule tokens with
  | some (some found, rest) => some (some found, rest)
  | _ => some (none, tokens)

/-- What the first rule finds or, failing that, the second. -/
def orElse {α : Type} (first second : Rule (Option α)) : Rule (Option α) := do
  match ← first with
  | some found => pure (some found)
  | none => second

/-- What a rule finds if a condition holds. -/
def whenever {α : Type} (condition : Bool) (rule : Rule (Option α)) : Rule (Option α) :=
  if condition then rule else pure none

/-- Applies a step for as long as it finds something, at most `limit` times. -/
def repeated {α : Type} (step : α → Rule (Option α)) : Nat → α → Rule α
  | 0, found => pure found
  | limit + 1, found => do
    match ← step found with
    | some next => repeated step limit next
    | none => pure found

/-- Applies a step for as long as it finds something. -/
def iterated {α : Type} (step : α → Rule (Option α)) (found : α) : Rule α := do
  repeated step ((← get).length + 1) found

/-- What stands between commas, and whether the last comma has nothing behind it. -/
structure Listed (α : Type) where
  found : List α
  trailing : Bool

/-- Things with commas between them, any of which may be left out. -/
def listed {α : Type} (rule : Rule (Option α)) : Rule (Listed α) := do
  let first ← rule
  iterated
    (fun listed => do
      if ← symbol "," then
        let next ← rule
        pure (some { found := listed.found ++ next.toList, trailing := next.isNone })
      else
        pure none)
    { found := first.toList, trailing := false }

/-- Things with commas between them. -/
def separated {α : Type} (rule : Rule (Option α)) : Rule (List α) := do
  pure (← listed rule).found

/-- A closing bracket, which must come next. -/
def closing : Rule Unit := do
  insist (← symbol ")")

/-- What stands between brackets, which must come next. -/
def wrapped {α : Type} (rule : Rule α) : Rule α := do
  insist (← symbol "(")
  let found ← rule
  closing
  pure found

/-- What stands between brackets, if they come next, or without them. -/
def maybeWrapped {α : Type} (rule : Rule α) : Rule α := do
  if ← sees (isSymbol "(") then wrapped rule else rule

/-- Operands with operators between them; each operator needs an operand on both sides. -/
def joined (isOperator : Token → Bool) (rule : Rule (Option Node)) : Rule (Option Node) := do
  let first ← rule
  iterated
    (fun left => do
      if ← takeIf isOperator then
        insist left.isSome
        let _ ← need rule
        pure (some (some .other))
      else
        pure none)
    first

end RideQuery.Sql.Grammar
