import RideQuery.Value.Display

/-!
# Writing JSON

The JSON text of an open value.  A `Style` fixes the choices that differ between
the places that write JSON: a log line keeps letters of every script, a web
response is compact and sorted by key, and command-line output is indented.
Decimals and dates have no form of their own in JSON; the style says whether they
become texts or are refused.  Each level of nesting takes a place of the room that there
is for writing, and so do the calls that decimals and dates are handled by.
-/

namespace RideQuery.Json

open RideQuery.Number RideQuery.Text

/-- What becomes of a value that JSON has no form for. -/
inductive Foreign where
  /-- It is refused. -/
  | refuse
  /-- Its plain display is written as a text. -/
  | display
  /-- A decimal is written as a text, and a date as it stands in a web header. -/
  | web
  deriving DecidableEq

/-- The calls that a value without a form of its own is handled by, each inside the last. -/
def Foreign.calls : Foreign → Value → List Activity
  | .refuse, _ => [.running, .calling]
  | .display, .date _ => [.calling, .displaying, .calling]
  | .display, _ => [.calling, .displaying]
  | .web, .date _ => [.running, .running, .running, .running]
  | .web, _ => [.running, .displaying]

/-- The choices that a place of output makes. -/
structure Style where
  /-- Whether everything outside printable ASCII is escaped. -/
  ascii : Bool
  /-- Whether no blank follows a comma or a colon. -/
  compact : Bool
  /-- How many spaces each level of nesting is indented by, if lines are broken at all. -/
  indent : Option Nat
  /-- Whether the entries of a dictionary are ordered by their keys. -/
  sorted : Bool
  /-- What becomes of decimals and dates. -/
  foreign : Foreign

/-- Why a value could not be written. -/
inductive WriteError where
  /-- An integer with too many digits. -/
  | number (error : NumberError)
  /-- A value of this type that the style refuses. -/
  | notSerializable (typeName : String)
  /-- A key of a type that cannot be turned into a text. -/
  | badKey (typeName : String)
  /-- Two keys that have no order. -/
  | incomparableKeys (first second : String)
  /-- A member that lies too deep. -/
  | tooDeep (activity : Activity)
  deriving DecidableEq

/-- The wording of each failure. -/
def WriteError.message : WriteError → String
  | .number error => error.message
  | .notSerializable typeName => "Object of type " ++ typeName ++ " is not JSON serializable"
  | .badKey typeName => "keys must be str, int, float, bool or None, not " ++ typeName
  | .incomparableKeys first second =>
    "'<' not supported between instances of " ++ Value.marked first ++ " and " ++
      Value.marked second
  | .tooDeep activity => activity.message

/-! ## Texts -/

/-- A code unit as an escape. -/
def unitEscape (unit : Nat) : List Char :=
  '\\' :: 'u' :: hexDigits 4 unit

/-- The two UTF-16 units of a character beyond the basic plane. -/
def surrogates (c : Char) : Nat × Nat :=
  let offset := c.toNat - 0x10000
  (0xD800 + offset / 0x400, 0xDC00 + offset % 0x400)

/-- The escapes of a character: one, or two beyond the basic plane. -/
def fullEscape (c : Char) : List Char :=
  if c.toNat < 0x10000 then
    unitEscape c.toNat
  else
    unitEscape (surrogates c).1 ++ unitEscape (surrogates c).2

/-- The letter that stands for a character behind a backslash, if there is one. -/
def shortEscape? (c : Char) : Option Char :=
  if c == '"' || c == '\\' then some c
  else if c == '\n' then some 'n'
  else if c == '\r' then some 'r'
  else if c == '\t' then some 't'
  else if c == '\x08' then some 'b'
  else if c == '\x0c' then some 'f'
  else none

/-- Whether a character may stand for itself. -/
def standsAlone (ascii : Bool) (c : Char) : Bool :=
  if ascii then ' ' ≤ c && c ≤ '~' else ' ' ≤ c

/-- A character inside a JSON text. -/
def writeChar (ascii : Bool) (c : Char) : List Char :=
  match shortEscape? c with
  | some letter => ['\\', letter]
  | none => if standsAlone ascii c then [c] else fullEscape c

/-- A text between double quotation marks. -/
def writeText (ascii : Bool) (text : List Char) : List Char :=
  '"' :: text.flatMap (writeChar ascii) ++ ['"']

/-! ## Numbers and keys -/

/-- The names of the numbers that have no digits. -/
def numberNames : SpecialNames :=
  { nan := "NaN", infinity := "Infinity" }

/-- An integer. -/
def writeInt (n : Int) : Except WriteError (List Char) :=
  match writeInteger n with
  | .ok text => .ok text.toList
  | .error error => .error (.number error)

/-- A truth value. -/
def writeBool (b : Bool) : List Char :=
  if b then "true".toList else "false".toList

/-- How a style names the type of a key that it refuses: on one line, with its module. -/
def Style.keyTypeName (style : Style) (key : Value) : String :=
  if style.indent.isNone then key.qualifiedTypeName else key.typeName

/-- The text that a key is written as. -/
def keyText (style : Style) : Value → Except WriteError (List Char)
  | .text s => .ok s.toList
  | .null => .ok "null".toList
  | .bool b => .ok (writeBool b)
  | .int n => writeInt n
  | .float x => .ok (x.textWith numberNames)
  | key => .error (.badKey (style.keyTypeName key))

/-- The place of a number among the others. -/
inductive Place where
  | lowest
  | exact (num : Int) (den : Nat)
  | highest
  /-- Not a number, and so neither before nor behind any other. -/
  | nowhere

/-- The place of a numeric key. -/
def place? : Value → Option Place
  | .float (.infinity negative) => some (if negative then .lowest else .highest)
  | .float .nan => some .nowhere
  | key => (Value.exactNumber? key).map fun (num, den, _) => .exact num den

/-- Whether the first of two places lies before the second. -/
def Place.before : Place → Place → Bool
  | .lowest, .exact .. => true
  | .lowest, .highest => true
  | .exact num den, .exact num' den' => num * den' < num' * den
  | .exact .., .highest => true
  | _, _ => false

/-- Whether the first of two keys is the smaller one, if they have an order. -/
def keyBefore (a b : Value) : Except WriteError Bool :=
  match a, b with
  | .text s, .text t => .ok (s < t)
  | _, _ =>
    match place? a, place? b with
    | some x, some y => .ok (x.before y)
    | _, _ => .error (.incomparableKeys a.typeName b.typeName)

/-- Puts an entry into a list that descends, in front of those whose keys are not greater. -/
def insertByKey {α : Type} (entry : Value × α) :
    List (Value × α) → Except WriteError (List (Value × α))
  | [] => .ok [entry]
  | other :: rest => do
    if ← keyBefore entry.1 other.1 then
      .ok (other :: (← insertByKey entry rest))
    else
      .ok (entry :: other :: rest)

/-- Entries in the order of their keys. -/
def sortByKey {α : Type} (entries : List (Value × α)) :
    Except WriteError (List (Value × α)) := do
  .ok (← entries.foldlM (fun done entry => insertByKey entry done) []).reverse

/-! ## Values -/

namespace Style

/-- What separates a key from its value. -/
def colon (style : Style) : List Char :=
  if style.compact then [':'] else [':', ' ']

/-- What separates two members on one line. -/
def comma (style : Style) : List Char :=
  if style.compact then [','] else [',', ' ']

/-- The start of a line at some level of nesting. -/
def newline (width level : Nat) : List Char :=
  '\n' :: List.replicate (width * level) ' '

/-- Members between brackets, at some level of nesting. -/
def bracketed (style : Style) (level : Nat) (left right : Char)
    (members : List (List Char)) : List Char :=
  if members.isEmpty then
    [left, right]
  else
    match style.indent with
    | none => left :: style.comma.intercalate members ++ [right]
    | some width =>
      left :: newline width (level + 1) ++
        (',' :: newline width (level + 1)).intercalate members ++
        newline width level ++ [right]

/-- A decimal or a date, as the style has it where so many levels have room. -/
def foreignText (style : Style) (room : Nat) (value : Value) : Except WriteError (List Char) :=
  match (style.foreign.calls value)[room]? with
  | some activity => .error (.tooDeep activity)
  | none =>
    match style.foreign, value with
    | .display, .decimal d => .ok (writeText style.ascii d.chars)
    | .display, .date d => .ok (writeText style.ascii d.isoChars)
    | .web, .decimal d => .ok (writeText style.ascii d.chars)
    | .web, .date d => .ok (writeText style.ascii d.webText.toList)
    | _, other => .error (.notSerializable other.typeName)

/-- Entries in the order that the style asks for. -/
def ordered (style : Style) (entries : List (Value × List Char)) :
    Except WriteError (List (Value × List Char)) :=
  if style.sorted then sortByKey entries else .ok entries

end Style

/-- The room that a collection leaves for its members. -/
def roomInside : Nat → Except WriteError Nat
  | 0 => .error (.tooDeep .encoding)
  | room + 1 => .ok room

mutual

/-- The JSON text of a value at some level of nesting, where so many more have room. -/
def writeAt (style : Style) (level room : Nat) : Value → Except WriteError (List Char)
  | .null => .ok "null".toList
  | .bool b => .ok (writeBool b)
  | .int n => writeInt n
  | .float x => .ok (x.textWith numberNames)
  | .text s => .ok (writeText style.ascii s.toList)
  | .list items => do
    let inside ← roomInside room
    .ok (style.bracketed level '[' ']' (← writeItems style (level + 1) inside items))
  | .tuple items => do
    let inside ← roomInside room
    .ok (style.bracketed level '[' ']' (← writeItems style (level + 1) inside items))
  | .dict entries => do
    let inside ← roomInside room
    let written ← style.ordered (← writeEntries style (level + 1) inside entries)
    .ok (style.bracketed level '\x7b' '\x7d' (written.map Prod.snd))
  | .decimal d => style.foreignText room (.decimal d)
  | .date d => style.foreignText room (.date d)

/-- The JSON texts of the members of a list. -/
def writeItems (style : Style) (level room : Nat) :
    List Value → Except WriteError (List (List Char))
  | [] => .ok []
  | item :: rest => do
    let written ← writeAt style level room item
    .ok (written :: (← writeItems style level room rest))

/-- The JSON texts of the entries of a dictionary, each with its key. -/
def writeEntries (style : Style) (level room : Nat) :
    List (Value × Value) → Except WriteError (List (Value × List Char))
  | [] => .ok []
  | (key, value) :: rest => do
    let name ← keyText style key
    let written ← writeAt style level room value
    .ok ((key, writeText style.ascii name ++ style.colon ++ written) ::
      (← writeEntries style level room rest))

end

section

variable (style : Style) (level room : Nat)

theorem writeAt_list (items : List Value) :
    writeAt style level (room + 1) (.list items) =
      writeItems style (level + 1) room items >>= fun texts =>
        .ok (style.bracketed level '[' ']' texts) :=
  rfl

theorem writeAt_tuple (items : List Value) :
    writeAt style level (room + 1) (.tuple items) =
      writeItems style (level + 1) room items >>= fun texts =>
        .ok (style.bracketed level '[' ']' texts) :=
  rfl

theorem writeAt_dict (entries : Dict) :
    writeAt style level (room + 1) (.dict entries) =
      writeEntries style (level + 1) room entries >>= style.ordered >>= fun texts =>
        .ok (style.bracketed level '\x7b' '\x7d' (texts.map Prod.snd)) := by
  rw [bind_assoc]
  rfl

end

/-- The JSON text of a value, where so many levels of nesting have room. -/
def write (style : Style) (room : Nat) (value : Value) : Except WriteError String := do
  .ok (String.ofList (← writeAt style 0 room value))

/-! ## Styles -/

/-- One line in ASCII, with nothing but the types of JSON. -/
def Style.plain : Style :=
  { ascii := true, compact := false, indent := none, sorted := false, foreign := .refuse }

/-- One line that keeps letters of every script and shows foreign values as texts. -/
def Style.log : Style :=
  { ascii := false, compact := false, indent := none, sorted := false, foreign := .display }

/-- Indented ASCII that shows foreign values as texts. -/
def Style.console : Style :=
  { ascii := true, compact := false, indent := some 2, sorted := false, foreign := .display }

/-- Compact ASCII with sorted keys. -/
def Style.web : Style :=
  { ascii := true, compact := true, indent := none, sorted := true, foreign := .web }

end RideQuery.Json
