import RideQuery.Surroundings.Sql.Grammar.Statement
import RideQuery.Sql.Placeholder

/-!
# Grammar

A recogniser of SQL.  It stands in for the parser that the library leaves the checking of
its queries to: `Query.buildWith` takes any recogniser, and whatever is proved of all queries
holds for every one.  This one lets the program run, and tells at fixed inputs that a query
is not refused.  It is lenient where databases are: lists may have gaps, the clauses behind
the tables may come in any order, and a lone expression is a statement.  The nesting of goals
is bounded, and the bound of `accepts` is never met.
-/

namespace RideQuery.Sql

namespace Grammar

/-- The rule for a goal. -/
def ruleFor (ask : Ask) : Goal → Rule (Option Node)
  | .statement => statement ask
  | .expression => expression ask
  | .assignment => assignment ask (tail ask)
  | .disjunction => disjunction ask (tail ask)
  | .equality => equality ask (tail ask)
  | .bitwise => bitwise ask
  | .term => term ask
  | .factor => factor ask
  | .unary => unary ask
  | .operand => operand ask (tail ask)
  | .column => column ask (tail ask)
  | .call => call ask { bare := true, qualified := false }
  | .placeholder => placeholder ask
  | .query nested ofTable renamed sets => query ask nested ofTable renamed sets
  | .table schema joined newNames => table ask schema joined newNames
  | .type checked schema named => type ask checked schema named

/-- Answers goals that are nested up to some depth and refuses deeper ones. -/
def answer : Nat → Ask
  | 0, _ => failure
  | depth + 1, goal => ruleFor (answer depth) goal

/-- A nesting that tokens of some number cannot exceed. -/
def nestingBound (count : Nat) : Nat :=
  16 * count + 32

/-- Whether a statement is a command, which is not looked at further; `IF` may also be called. -/
def isCommand : List Token → Bool
  | .word "IF" :: .symbol "(" :: _ => false
  | .word text :: _ => text == "IF" || Keyword.commands.contains text
  | _ => false

/-- The statement that some tokens are, unless there are none; all of them must be read. -/
def statementOf (tokens : List Token) : Option (Option Node) :=
  if isCommand tokens then
    some (some .other)
  else
    match answer (nestingBound tokens.length) .statement tokens with
    | some (found, []) => some found
    | _ => none

/-- Tokens cut at semicolons. -/
def statements : List Token → List (List Token)
  | [] => [[]]
  | token :: rest =>
    if token == .symbol ";" then
      [] :: statements rest
    else
      match statements rest with
      | [] => [[token]]
      | first :: others => (token :: first) :: others

/-- Whether some tokens are statements; none but the first may be left out. -/
def acceptsTokens (tokens : List Token) : Bool :=
  match (statements tokens).mapM statementOf with
  | some (some _ :: _) => true
  | _ => false

/-- Whether a text without placeholders is SQL. -/
def accepts (text : List Char) : Bool :=
  match Token.read? text with
  | some tokens => acceptsTokens tokens
  | none => false

end Grammar

/-- What is found out about a text by itself. -/
inductive Verdict where
  | wellFormed
  | empty
  | illFormed
  deriving DecidableEq

/-- Whether a text, placeholders included, is SQL. -/
def verdict (text : List Char) : Verdict :=
  if (Text.trim text).isEmpty then .empty
  else if Grammar.accepts (withoutPlaceholders text) then .wellFormed
  else .illFormed

end RideQuery.Sql
