import RideQuery.Number.Notation
import RideQuery.Value.Display

/-!
# Message templates

Filling in the arguments of a log message.  A percent sign begins a field: an
optional key, flags, a width, a precision and a conversion.  Arguments are taken in
order, unless the only argument is a dictionary, whose entries are then taken by key.
-/

namespace RideQuery.Log

open RideQuery.Number RideQuery.Text

/-- The two counts that a field may carry. -/
inductive Count where
  | width
  | precision
  deriving DecidableEq

/-- How many bits a count has besides its sign. -/
def Count.bits : Count → Nat
  | .width => 63
  | .precision => 31

/-- The name of a count. -/
def Count.name : Count → String
  | .width => "width"
  | .precision => "precision"

/-- The machine type of a count. -/
def Count.machineType : Count → String
  | .width => "C ssize_t"
  | .precision => "C int"

/-- Why a template could not be filled in. -/
inductive TemplateError where
  | tooFewArguments
  | leftoverArguments
  | incomplete
  | incompleteKey
  | needsDictionary
  | missingKey (key : String)
  | needsCount
  /-- A count in digits with too many of them. -/
  | countTooBig (count : Count)
  /-- An argument that is too large for a count. -/
  | argumentTooLarge (count : Count)
  | unsupported (c : Char) (index : Nat)
  | realRequired (conversion : Char) (typeName : String)
  | integerRequired (conversion : Char) (typeName : String)
  | floatRequired (typeName : String)
  | characterRequired
  | characterRange
  | number (error : NumberError)
  /-- An argument that is too deep to be displayed. -/
  | tooDeep (activity : Activity)
  deriving DecidableEq

namespace TemplateError

/-- A character as a message shows it. -/
def shownChar (c : Char) : String :=
  if 32 ≤ c.toNat && c.toNat < 127 then c.toString else "?"

/-- The hexadecimal digits of a number. -/
def hexText (n : Nat) : String :=
  String.ofList (Nat.toDigits 16 n)

/-- The wording of each failure. -/
def message : TemplateError → String
  | .tooFewArguments => "not enough arguments for format string"
  | .leftoverArguments => "not all arguments converted during string formatting"
  | .incomplete => "incomplete format"
  | .incompleteKey => "incomplete format key"
  | .needsDictionary => "format requires a mapping"
  | .missingKey key => quote key
  | .needsCount => "* wants int"
  | .countTooBig count => count.name ++ " too big"
  | .argumentTooLarge count => "Python int too large to convert to " ++ count.machineType
  | .unsupported c index =>
    "unsupported format character '" ++ shownChar c ++ "' (0x" ++ hexText c.toNat ++
      ") at index " ++ Nat.repr index
  | .realRequired conversion typeName =>
    "%" ++ conversion.toString ++ " format: a real number is required, not " ++ typeName
  | .integerRequired conversion typeName =>
    "%" ++ conversion.toString ++ " format: an integer is required, not " ++ typeName
  | .floatRequired typeName => "must be real number, not " ++ typeName
  | .characterRequired => "%c requires int or char"
  | .characterRange => "%c arg not in range(0x110000)"
  | .number error => error.message
  | .tooDeep activity => activity.message

/-- A failure to display an argument. -/
def ofDisplay : Value.DisplayError → TemplateError
  | .number error => .number error
  | .tooDeep activity => .tooDeep activity

end TemplateError

/-- The arguments that are left, and the dictionary that keys are looked up in. -/
structure Arguments where
  left : List Value
  dictionary : Option Dict

/-- The arguments of a template; a lone dictionary that is not empty is looked up in. -/
def Arguments.of : List Value → Arguments
  | [.dict entries] =>
    { left := [.dict entries], dictionary := if entries.isEmpty then none else some entries }
  | values => { left := values, dictionary := none }

/-- The next argument, and those behind it. -/
def Arguments.take (arguments : Arguments) : Except TemplateError (Value × Arguments) :=
  match arguments.left with
  | [] => .error .tooFewArguments
  | value :: rest => .ok (value, { arguments with left := rest })

/-! ## Fields -/

/-- How a field is laid out. -/
structure Layout where
  leftAlign : Bool := false
  plus : Bool := false
  blank : Bool := false
  alternate : Bool := false
  zeros : Bool := false
  width : Nat := 0
  precision : Option Nat := none

namespace Layout

/-- A layout with one more flag. -/
def withFlag (layout : Layout) : Char → Option Layout
  | '-' => some { layout with leftAlign := true }
  | '+' => some { layout with plus := true }
  | ' ' => some { layout with blank := true }
  | '#' => some { layout with alternate := true }
  | '0' => some { layout with zeros := true }
  | _ => none

/-- The sign in front of a number. -/
def sign (layout : Layout) (negative : Bool) : List Char :=
  if negative then ['-'] else if layout.plus then ['+'] else if layout.blank then [' '] else []

/-- A text of the layout's width. -/
def align (layout : Layout) (text : List Char) : List Char :=
  let padding := List.replicate (layout.width - text.length) ' '
  if layout.leftAlign then text ++ padding else padding ++ text

/-- A number of the layout's width, zeros going between its sign and its digits. -/
def alignNumber (layout : Layout) (lead digits : List Char) : List Char :=
  if layout.zeros && !layout.leftAlign then
    lead ++ List.replicate (layout.width - lead.length - digits.length) '0' ++ digits
  else
    layout.align (lead ++ digits)

/-- A text cut to the layout's precision. -/
def clip (layout : Layout) (text : List Char) : List Char :=
  match layout.precision with
  | some count => text.take count
  | none => text

end Layout

/-! ## Conversions -/

/-- A shown value in ASCII. -/
def escapeNonAscii (text : List Char) : List Char :=
  text.flatMap fun c =>
    if c.toNat < 128 then [c]
    else if c.toNat < 0x100 then '\\' :: 'x' :: hexDigits 2 c.toNat
    else if c.toNat < 0x10000 then '\\' :: 'u' :: hexDigits 4 c.toNat
    else '\\' :: 'U' :: hexDigits 8 c.toNat

/-- The integer that a number is cut off to. -/
def wholeNumber (conversion : Char) : Value → Except TemplateError Int
  | .bool b => .ok (if b then 1 else 0)
  | .int n => .ok n
  | .float x => x.truncate.mapError .number
  | .decimal (.finite negative coefficient exponent) =>
    let (num, den) := scaleByTen coefficient 1 exponent
    .ok (Binary64.signed negative (num / den))
  | .decimal (.infinity _) => .error (.number .infiniteDecimal)
  | .decimal (.nan _ _ _) => .error (.number .nanDecimal)
  | value => .error (.realRequired conversion value.qualifiedTypeName)

/-- An integer, and nothing that would have to be cut off to one. -/
def exactInteger (conversion : Char) : Value → Except TemplateError Int
  | .bool b => .ok (if b then 1 else 0)
  | .int n => .ok n
  | value => .error (.integerRequired conversion value.qualifiedTypeName)

/-- The double-precision number of a numeric value. -/
def realNumber : Value → Except TemplateError Binary64
  | .bool b => .ok (if b then 1 else 0)
  | .int n => (Binary64.ofInt n).mapError .number
  | .float x => .ok x
  | .decimal d => d.toBinary64.mapError .number
  | value => .error (.floatRequired value.qualifiedTypeName)

/-- Digits with zeros in front up to a precision. -/
def atLeastDigits (layout : Layout) (digits : List Char) : List Char :=
  List.replicate (layout.precision.getD 1 - digits.length) '0' ++ digits

/-- A decimal integer. -/
def decimalField (layout : Layout) (n : Int) : Except TemplateError (List Char) := do
  let written ← (writeInteger n.natAbs).mapError .number
  pure (layout.alignNumber (layout.sign (n < 0)) (atLeastDigits layout written.toList))

/-- An integer to the base eight or sixteen, with a mark of its base in front. -/
def basedField (layout : Layout) (base : Nat) (mark : Char) (n : Int) : List Char :=
  let lead := layout.sign (n < 0) ++ if layout.alternate then ['0', mark] else []
  layout.alignNumber lead (atLeastDigits layout (Nat.toDigits base n.natAbs))

/-- A double-precision number in some notation. -/
def realField (layout : Layout) (style : Notation) (x : Binary64) : List Char :=
  layout.alignNumber (layout.sign x.isNegative)
    (x.inNotation style layout.alternate (layout.precision.getD 6))

/-- The character that a value is. -/
def character : Value → Except TemplateError Char
  | .text s =>
    match s.toList with
    | [c] => .ok c
    | _ => .error .characterRequired
  | .int n => if 0 ≤ n ∧ n < 0x110000 then .ok (Char.ofNat n.toNat) else .error .characterRange
  | .bool b => .ok (Char.ofNat (if b then 1 else 0))
  | _ => .error .characterRequired

/-- A text in capital letters. -/
def capital (text : List Char) : List Char :=
  text.map Char.toUpper

/-- A value in a field; `index` is the place of the conversion. -/
def fillField (room : Nat) (layout : Layout) (conversion : Char) (index : Nat) (value : Value) :
    Except TemplateError (List Char) := do
  match conversion with
  | 's' =>
    let text ← (value.plainWithin room).mapError .ofDisplay
    pure (layout.align (layout.clip text.toList))
  | 'r' =>
    let text ← (value.inspectWithin room).mapError .ofDisplay
    pure (layout.align (layout.clip text.toList))
  | 'a' =>
    let text ← (value.inspectWithin room).mapError .ofDisplay
    pure (layout.align (layout.clip (escapeNonAscii text.toList)))
  | 'd' | 'i' | 'u' => decimalField layout (← wholeNumber conversion value)
  | 'o' => pure (basedField layout 8 'o' (← exactInteger conversion value))
  | 'x' => pure (basedField layout 16 'x' (← exactInteger conversion value))
  | 'X' => pure (capital (basedField layout 16 'x' (← exactInteger conversion value)))
  | 'f' => pure (realField layout .fixed (← realNumber value))
  | 'F' => pure (capital (realField layout .fixed (← realNumber value)))
  | 'e' => pure (realField layout .scientific (← realNumber value))
  | 'E' => pure (capital (realField layout .scientific (← realNumber value)))
  | 'g' => pure (realField layout .general (← realNumber value))
  | 'G' => pure (capital (realField layout .general (← realNumber value)))
  | 'c' => pure (layout.align [← character value])
  | c => .error (.unsupported c index)

/-! ## Reading fields -/

/-- A key up to its closing bracket, where `depth` more are open, and the text behind it. -/
def readKey (depth : Nat) : List Char → Option (List Char × List Char)
  | [] => none
  | ')' :: rest =>
    match depth with
    | 0 => some ([], rest)
    | depth + 1 => (readKey depth rest).map fun (key, left) => (')' :: key, left)
  | '(' :: rest => (readKey (depth + 1) rest).map fun (key, left) => ('(' :: key, left)
  | c :: rest => (readKey depth rest).map fun (key, left) => (c :: key, left)

/-- Replaces the arguments by the entry under a key, if a field begins with one. -/
def chooseEntry (arguments : Arguments) :
    List Char → Except TemplateError (Arguments × List Char)
  | '(' :: rest =>
    match arguments.dictionary with
    | none => .error .needsDictionary
    | some entries =>
      match readKey 0 rest with
      | none => .error .incompleteKey
      | some (key, left) =>
        match Value.lookup? entries (String.ofList key) with
        | none => .error (.missingKey (String.ofList key))
        | some value => .ok ({ arguments with left := [value] }, left)
  | text => .ok (arguments, text)

/-- A layout with the flags that a text begins with, and the text behind them. -/
def readFlags (layout : Layout) : List Char → Layout × List Char
  | [] => (layout, [])
  | c :: rest =>
    match layout.withFlag c with
    | some layout => readFlags layout rest
    | none => (layout, c :: rest)

/-- An integer as a count, if it fits. -/
def countOfInteger (count : Count) (n : Int) : Except TemplateError Int :=
  if -2 ^ count.bits ≤ n ∧ n < 2 ^ count.bits then .ok n else .error (.argumentTooLarge count)

/-- An argument as a count. -/
def countOf (count : Count) : Value → Except TemplateError Int
  | .int n => countOfInteger count n
  | .bool b => .ok (if b then 1 else 0)
  | _ => .error .needsCount

/-- Digits as a count, none counting as nought. -/
def countOfDigits (count : Count) (digits : List Char) : Except TemplateError Int :=
  if asciiValue digits < 2 ^ count.bits then .ok (asciiValue digits)
  else .error (.countTooBig count)

/-- A count in digits, or the next argument in place of a star. -/
def readCount (count : Count) (arguments : Arguments) :
    List Char → Except TemplateError (Int × Arguments × List Char)
  | '*' :: rest => do
    let (value, arguments) ← arguments.take
    pure (← countOf count value, arguments, rest)
  | text => do
    pure
      (← countOfDigits count (text.takeWhile Char.isDigit), arguments,
        text.dropWhile Char.isDigit)

/-- A layout with a width, a negative one aligning to the left. -/
def Layout.withWidth (layout : Layout) (width : Int) : Layout :=
  { layout with leftAlign := layout.leftAlign || width < 0, width := width.natAbs }

/-- A layout with the precision that may come next, and the text behind it. -/
def readPrecision (layout : Layout) (arguments : Arguments) :
    List Char → Except TemplateError (Layout × Arguments × List Char)
  | '.' :: rest => do
    let (count, arguments, left) ← readCount .precision arguments rest
    pure ({ layout with precision := some count.toNat }, arguments, left)
  | text => .ok (layout, arguments, text)

/-- A text without the size mark that may stand before a conversion. -/
def skipSize : List Char → List Char
  | 'h' :: rest => rest
  | 'l' :: rest => rest
  | 'L' :: rest => rest
  | text => text

/--
What a field is filled in with, the arguments that are left, and the text behind it.
Only a percent sign that stands directly behind the first one is taken for itself.
-/
def readField (room total : Nat) (arguments : Arguments) (text : List Char) :
    Except TemplateError (List Char × Arguments × List Char) := do
  match text with
  | '%' :: rest => pure (['%'], arguments, rest)
  | _ => do
    let (arguments, text) ← chooseEntry arguments text
    let (layout, text) := readFlags {} text
    let (width, arguments, text) ← readCount .width arguments text
    let (layout, arguments, text) ← readPrecision (layout.withWidth width) arguments text
    match skipSize text with
    | [] => .error .incomplete
    | conversion :: rest => do
      let (value, arguments) ← arguments.take
      let filled ← fillField room layout conversion (total - rest.length - 1) value
      pure (filled, arguments, rest)

/-- The rest of a template of `total` characters filled in; `limit` bounds its length. -/
def fillFrom (room total : Nat) : Nat → Arguments → List Char → Except TemplateError (List Char)
  | _, arguments, [] =>
    if arguments.left.isEmpty || arguments.dictionary.isSome then .ok []
    else .error .leftoverArguments
  | 0, _, _ => .error .incomplete
  | limit + 1, arguments, c :: rest =>
    if c == '%' then do
      let (filled, arguments, left) ← readField room total arguments rest
      pure (filled ++ (← fillFrom room total limit arguments left))
    else do
      pure (c :: (← fillFrom room total limit arguments rest))

/--
A template with its arguments filled in, each in some room; without arguments it stands for
itself.
-/
def fill (room : Nat) (template : String) (arguments : List Value) : Except TemplateError String :=
  if arguments.isEmpty then
    .ok template
  else do
    let text := template.toList
    pure (String.ofList (← fillFrom room text.length text.length (Arguments.of arguments) text))

end RideQuery.Log
