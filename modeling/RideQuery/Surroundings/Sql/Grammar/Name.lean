import RideQuery.Surroundings.Sql.Grammar.Rule

/-!
# Names

Names, and the placeholders that may stand for them.  Where nothing but a name can
stand, nearly every token is one.
-/

namespace RideQuery.Sql.Grammar

/-- Whether a token is a name where nothing but a name can stand. -/
def isAnyName : Token → Bool
  | .word text => !(["SELECT", "NOT", "UNKNOWN"].contains text)
  | .symbol text => text == "~" || (1 < text.length && text != "==")
  | _ => true

/-- The name that a token is. -/
def nameOf : Token → Node
  | .word text => .name text true
  | .quoted text => .name text false
  | _ => .name "" false

/-- Whether a token follows a colon as the name or the number of a placeholder. -/
def isPlaceholderName : Token → Bool
  | .word text => Keyword.isName text
  | .quoted _ => true
  | .number => true
  | _ => false

/-- What follows the sign of a parameter. -/
def parameterName (ask : Ask) : Rule Unit := do
  match ← ask .placeholder with
  | some _ => pure ()
  | none =>
    if ← takeIf isAnyName then pure () else let _ ← need (ask .operand)

/-- A value that is passed beside the text. -/
def placeholder (ask : Ask) : Rule (Option Node) := do
  let start ← get
  if ← symbol "?" then
    pure (some .other)
  else if ← symbol "%" then
    if ← sees (isSymbol "(") then
      wrapped (do let _ ← takeIf isAnyName)
    let _ ← spelled ["S"]
    pure (some .other)
  else if ← takeIf (isSymbolIn ["@", "$"]) then
    parameterName ask
    pure (some .other)
  else if ← symbol ":" then
    if ← takeIf isPlaceholderName then
      pure (some .other)
    else
      set start
      pure none
  else
    pure none

/-- A name: any token at all if `any`, and otherwise one of the words of a class. -/
def name (ask : Ask) (any : Bool) (admits : String → Bool) : Rule (Option Node) := do
  match ← get with
  | .quoted text :: rest =>
    set rest
    pure (some (nameOf (.quoted text)))
  | _ =>
    orElse (ask .placeholder) do
      match ← get with
      | token :: rest =>
        let admitted := match token with | .word text => admits text | _ => false
        if (any && isAnyName token) || admitted then
          set rest
          pure (some (nameOf token))
        else
          pure none
      | [] => pure none

/-- A name where nothing but a name can stand. -/
def anyName (ask : Ask) : Rule (Option Node) :=
  name ask true Keyword.isName

/-- A name where other things can stand. -/
def plainName (ask : Ask) : Rule (Option Node) :=
  name ask false Keyword.isName

/-- A word without a meaning of its own, or any token if `any`, or a placeholder. -/
def variableName (ask : Ask) (any : Bool) : Rule (Option Node) := do
  let fits token := match token with
    | .word text => Keyword.isPlain text
    | _ => false
  if ← takeIf fun token => (any && isAnyName token) || fits token then
    pure (some .other)
  else
    ask .placeholder

/-- A literal between quotes of any kind, or a placeholder. -/
def stringLiteral (ask : Ask) : Rule (Option Node) := do
  if ← takeIf fun token => isLiteral token || token == .coded then
    pure (some .other)
  else
    ask .placeholder

/-- A literal or, failing that, any token. -/
def stringOrVariable (ask : Ask) : Rule (Option Node) :=
  orElse (stringLiteral ask) (variableName ask true)

end RideQuery.Sql.Grammar
