import RideQuery.Surroundings.Sql.Grammar.Name

/-!
# Types

The names of types, with their sizes, the types that they are made of, time zones
and brackets of arrays.  A word of a type may name a function or a column as well;
where it might, a type with arguments must have a literal behind it.
-/

namespace RideQuery.Sql.Grammar

/-- A size or another argument of a type, possibly with a word behind it. -/
def typeSize (ask : Ask) : Rule (Option Node) := do
  match ← ask .operand with
  | none => pure none
  | some found =>
    let _ ← variableName ask true
    pure (some found)

/-- A member of a record type: a name and a type, or a type alone. -/
def typeMember (ask : Ask) : Rule (Option Node) := do
  let start ← get
  let _ ← anyName ask
  let _ ← symbol ":"
  orElse (ask (.type false false true)) do
    set start
    ask (.type false false true)

/-- What stands between the brackets behind a type. -/
def typeArguments (ask : Ask) (text : String) (checked schema named : Bool) :
    Rule (List Node) :=
  if ["STRUCT", "OBJECT"].contains text then separated (typeMember ask)
  else if Keyword.nestedTypes.contains text then separated (ask (.type checked schema named))
  else if text == "ENUM" then separated (ask .equality)
  else separated (typeSize ask)

/-- The values that a nested type makes something of. -/
def typeValues (ask : Ask) (text : String) : Rule Bool := do
  let start ← get
  if ← takeIf (isSymbolIn ["[", "("]) then
    let values ← separated (ask .disjunction)
    if values.isEmpty && ["STRUCT", "OBJECT"].contains text then
      set start
      pure false
    else
      let _ ← takeIf (isSymbolIn ["]", ")"])
      pure true
  else
    pure false

/-- What follows the name of a type, and whether it shows that a type is meant. -/
def typeZone (ask : Ask) (text : String) : Rule Bool := do
  if Keyword.zonedTypes.contains text then
    if ← spelling ["WITH", "TIME", "ZONE"] then pure true
    else if ← spelling ["WITH", "LOCAL", "TIME", "ZONE"] then pure true
    else spelling ["WITHOUT", "TIME", "ZONE"]
  else if text == "INTERVAL" then
    if (← variableName ask false).isSome then
      if ← spelled ["TO"] then
        let _ ← need (variableName ask false)
    pure false
  else
    pure false

/--
The brackets of array types.  Brackets that hold something belong to a value unless
columns are being listed; `start` is where the first of them stand.
-/
def arrayBrackets (ask : Ask) (schema : Bool) (start : List Token) :
    Nat → Bool → Bool → Bool → Rule Bool
  | 0, _, _, found => pure found
  | limit + 1, behindArray, arrayWord, found => do
    if !(← tokensLeft) then
      pure found
    else if ← symbol "[" then
      let closes ← if behindArray then symbol "]" else pure false
      if closes then
        pure found
      else
        let values ← separated (ask .disjunction)
        if !values.isEmpty && !schema then
          set start
          pure found
        else
          let _ ← symbol "]"
          arrayBrackets ask schema start limit false false true
    else if arrayWord then
      let values ← separated (ask .disjunction)
      if !values.isEmpty && !schema then
        set start
        pure found
      else
        let _ ← symbol "]"
        arrayBrackets ask schema start limit false false true
    else
      pure found

/-- The lists and arrays that are made of a type. -/
def typeArrays (ask : Ask) (schema bareArray : Bool) : Rule Bool := do
  let lists ← iterated
    (fun _ => do pure (if ← word "LIST" then some true else none)) false
  let start ← get
  let arrayWord ← word "ARRAY"
  let found ← arrayBrackets ask schema start (start.length + 1) (bareArray || arrayWord)
    arrayWord false
  pure (lists || found)

/--
What follows the name of a type.  If the type might be a call, as `checked` says, its
arguments make it one unless a literal comes next.
-/
def typeTail (ask : Ask) (start : List Token) (text : String) (checked schema named : Bool) :
    Rule (Option Node) := do
  let retreat : Rule (Option Node) := do
    set start
    pure none
  let bracketed ← symbol "("
  let arguments ← if bracketed then typeArguments ask text checked schema named else pure []
  let closed ← if bracketed then symbol ")" else pure true
  if bracketed && (arguments.isEmpty || !closed) then
    retreat
  else
    let nested := Keyword.nestedTypes.contains text
    let angled ← if nested then symbol "<" else pure false
    if angled then
      let _ ←
        if ["STRUCT", "OBJECT"].contains text then separated (typeMember ask)
        else separated (ask (.type checked schema named))
      insist (← symbol ">")
    let valued ← if angled then typeValues ask text else pure false
    let zoned ← typeZone ask text
    let literalNext ← sees fun token => isLiteral token || token == .coded ||
      isSymbolIn ["?", "%", "@", "$", ":"] token
    if bracketed && !zoned && checked && !literalNext then
      retreat
    else
      if ← spelled ["UNSIGNED"] then
        insist (Keyword.signedTypes.contains text)
      if text == "NULLABLE" && !bracketed && !angled then
        retreat
      else
        let bareArray := text == "ARRAY" && !bracketed && !angled
        let arrays ← typeArrays ask schema bareArray
        pure (some (if valued then .other else .type (bracketed || angled || arrays)))

/-- The parts of the name of a type of the user's, behind the first. -/
def typePath (ask : Ask) : Rule Unit :=
  iterated
    (fun _ => do
      if ← symbol "." then
        let _ ← anyName ask
        pure (some ())
      else
        pure none)
    ()

/-- A type. -/
def type (ask : Ask) (checked schema named : Bool) : Rule (Option Node) := do
  let start ← get
  match start with
  | .word text :: rest =>
    if Keyword.isType text then
      set rest
      if Keyword.objectTypes.contains text then pure (some (.type false))
      else typeTail ask start text checked schema named
    else if named && Keyword.isPlain text then
      set rest
      typePath ask
      typeTail ask start "" checked schema named
    else
      pure none
  | .quoted text :: rest =>
    if named then
      set rest
      if Keyword.isType text then
        typeTail ask start text checked schema named
      else
        typePath ask
        typeTail ask start "" checked schema named
    else
      pure none
  | _ => pure none

end RideQuery.Sql.Grammar
