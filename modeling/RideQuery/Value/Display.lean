import RideQuery.Room
import RideQuery.Value

/-!
# Display of open values

Two forms of a value are shown to people.  The plain form of a text is the text
itself, while the form for inspection quotes it, so that a text is told from a
number.  Members of a collection are always shown for inspection.  An integer may be
too long to be written, and where the room is limited, a value may be too deep for it.
-/

namespace RideQuery.Value

open RideQuery.Number RideQuery.Text RideQuery.Calendar

/-- A text in single quotation marks, without escapes. -/
def marked (text : String) : String :=
  "'" ++ text ++ "'"

/-- Members of a tuple between parentheses; a lone member is followed by a comma. -/
def tupleText : List String → String
  | [member] => "(" ++ member ++ ",)"
  | members => "(" ++ ", ".intercalate members ++ ")"

/-- Entries of a dictionary between braces. -/
def dictText (entries : List String) : String :=
  "\x7b" ++ ", ".intercalate entries ++ "\x7d"

/-- A date as its year, month and day, in full. -/
def dateText (d : Date) : String :=
  "datetime.date(" ++ ", ".intercalate ([d.year, d.month, d.day].map Nat.repr) ++ ")"

/-- Why a value could not be displayed in the room that there was. -/
inductive DisplayError where
  /-- An integer with too many digits. -/
  | number (error : NumberError)
  /-- A member that lies too deep. -/
  | tooDeep (activity : Activity)
  deriving DecidableEq

/-- The wording of each failure. -/
def DisplayError.message : DisplayError → String
  | .number error => error.message
  | .tooDeep activity => activity.message

/-- A way to display values: how it fails, and what each level takes of its room. -/
structure Display (ρ ε : Type) where
  /-- The failure for a number that cannot be written. -/
  number : NumberError → ε
  /-- The room that is left inside, if there is any. -/
  enter : Activity → ρ → Except ε ρ

/-- With all the room that it takes. -/
def Display.ample : Display Unit NumberError :=
  { number := id, enter := fun _ => .ok }

/-- The room inside a number of places. -/
def enterWithin (activity : Activity) : Nat → Except DisplayError Nat
  | 0 => .error (.tooDeep activity)
  | room + 1 => .ok room

/-- With a number of places, of which each level takes one. -/
def Display.limited : Display Nat DisplayError :=
  { number := .number, enter := enterWithin }

section

variable {ρ ε : Type} (display : Display ρ ε)

mutual

/-- The form for inspection, when the value has been given room. -/
def inspectInside (room : ρ) : Value → Except ε String
  | .null => .ok "None"
  | .bool b => .ok (if b then "True" else "False")
  | .int n => (writeInteger n).mapError display.number
  | .float x => .ok x.text
  | .text s => .ok (quote s)
  | .decimal d => .ok ("Decimal(" ++ marked d.text ++ ")")
  | .date d => .ok (dateText d)
  | .list items => do .ok ("[" ++ ", ".intercalate (← inspectAll room items) ++ "]")
  | .tuple items => do .ok (tupleText (← inspectAll room items))
  | .dict entries => do .ok (dictText (← inspectEntries room entries))

/-- The members of a collection, each in the form for inspection. -/
def inspectAll (room : ρ) : List Value → Except ε (List String)
  | [] => .ok []
  | item :: rest => do
    let shown ← inspectInside (← display.enter .inspecting room) item
    .ok (shown :: (← inspectAll room rest))

/-- The entries of a dictionary, each in the form for inspection. -/
def inspectEntries (room : ρ) : List (Value × Value) → Except ε (List String)
  | [] => .ok []
  | (key, value) :: rest => do
    let shownKey ← inspectInside (← display.enter .inspecting room) key
    let shownValue ← inspectInside (← display.enter .inspecting room) value
    .ok ((shownKey ++ ": " ++ shownValue) :: (← inspectEntries room rest))

end

/-- The form for inspection, in some room. -/
def inspectWith (room : ρ) (value : Value) : Except ε String := do
  inspectInside display (← display.enter .inspecting room) value

/-- The plain form in some room: a text, a decimal and a date stand for themselves. -/
def plainWith (room : ρ) : Value → Except ε String
  | .text s => .ok s
  | .decimal d => do
    let _ ← display.enter .displaying room
    .ok d.text
  | .date d => do
    let inside ← display.enter .displaying room
    let _ ← display.enter .calling inside
    .ok d.iso
  | value => do inspectInside display (← display.enter .displaying room) value

end

/-- The form for inspection, with all the room that it takes. -/
def inspect (value : Value) : Except NumberError String :=
  inspectWith .ample () value

/-- The plain form, with all the room that it takes. -/
def plain (value : Value) : Except NumberError String :=
  plainWith .ample () value

/-- The form for inspection, where so many levels have room. -/
def inspectWithin (room : Nat) (value : Value) : Except DisplayError String :=
  inspectWith .limited room value

/-- The plain form, where so many levels have room. -/
def plainWithin (room : Nat) (value : Value) : Except DisplayError String :=
  plainWith .limited room value

@[simp]
theorem plain_text (s : String) : plain (.text s) = .ok s :=
  rfl

@[simp]
theorem plainWithin_text (room : Nat) (s : String) : plainWithin room (.text s) = .ok s :=
  rfl

end RideQuery.Value
