import RideQuery.Number.Decimal
import RideQuery.Calendar.Date

/-!
# Open values

The values that come from outside without a fixed type: query parameters, result
rows, settings and log payloads.  A dictionary keeps the order in which its keys
were first written.
-/

namespace RideQuery

open RideQuery.Number RideQuery.Calendar

/-- A value of any type that crosses the boundary of the program. -/
inductive Value where
  | null
  | bool (b : Bool)
  | int (n : Int)
  | float (x : Binary64)
  | text (s : String)
  | decimal (d : Decimal)
  | date (d : Date)
  | list (items : List Value)
  | tuple (items : List Value)
  | dict (entries : List (Value × Value))

/-- A dictionary: keys with their values, in the order the keys were first written. -/
abbrev Dict := List (Value × Value)

namespace Value

instance : Inhabited Value := ⟨.null⟩

instance : Coe String Value := ⟨.text⟩

/-- The name of a value's type. -/
def typeName : Value → String
  | .null => "NoneType"
  | .bool _ => "bool"
  | .int _ => "int"
  | .float _ => "float"
  | .text _ => "str"
  | .decimal _ => "Decimal"
  | .date _ => "date"
  | .list _ => "list"
  | .tuple _ => "tuple"
  | .dict _ => "dict"

/-- The name of a value's type with the module it is defined in, if that is not the core. -/
def qualifiedTypeName : Value → String
  | .decimal _ => "decimal.Decimal"
  | .date _ => "datetime.date"
  | value => value.typeName

/-- Whether a value counts as true: it is neither null, false, zero nor empty. -/
def truthy : Value → Bool
  | .null => false
  | .bool b => b
  | .int n => n != 0
  | .float x => !x.isZero
  | .text s => !s.isEmpty
  | .decimal d => !d.isZero
  | .date _ => true
  | .list items => !items.isEmpty
  | .tuple items => !items.isEmpty
  | .dict entries => !entries.isEmpty

/-! ## Keys -/

/-- The exact value of a finite number, as numerator, denominator and the power of ten beside it. -/
def exactNumber? : Value → Option (Int × Nat × Int)
  | .bool b => some (if b then 1 else 0, 1, 0)
  | .int n => some (n, 1, 0)
  | .float (.finite negative significand exponent) =>
    let (num, den) := Binary64.magnitude significand exponent
    some (Binary64.signed negative num, den, 0)
  | .decimal (.finite negative coefficient exponent) =>
    some (Binary64.signed negative coefficient, 1, exponent)
  | _ => none

/-- Whether two exact numbers are equal. -/
def sameNumber (a b : Int × Nat × Int) : Bool :=
  let low := min a.2.2 b.2.2
  a.1 * 10 ^ (a.2.2 - low).toNat * b.2.1 == b.1 * 10 ^ (b.2.2 - low).toNat * a.2.1

mutual

/-- Whether two keys name the same entry: equal numbers do, whatever their types. -/
def sameKey : Value → Value → Bool
  | .null, .null => true
  | .text s, .text t => s == t
  | .date d, .date e => d == e
  | .tuple items, .tuple others => sameKeys items others
  | .float (.infinity a), .float (.infinity b) => a == b
  | .decimal (.infinity a), .decimal (.infinity b) => a == b
  | .float (.infinity a), .decimal (.infinity b) => a == b
  | .decimal (.infinity a), .float (.infinity b) => a == b
  | a, b =>
    match exactNumber? a, exactNumber? b with
    | some x, some y => sameNumber x y
    | _, _ => false

/-- Whether two lists of keys agree member by member. -/
def sameKeys : List Value → List Value → Bool
  | [], [] => true
  | a :: as, b :: bs => sameKey a b && sameKeys as bs
  | _, _ => false

end

/-- Writes an entry: a known key keeps its place and gets the new value. -/
def insert (entries : Dict) (key value : Value) : Dict :=
  match entries with
  | [] => [(key, value)]
  | (k, v) :: rest =>
    if sameKey k key then (k, value) :: rest else (k, v) :: insert rest key value

/-- The dictionary that results from writing some entries one after the other. -/
def ofEntries (entries : List (Value × Value)) : Dict :=
  entries.foldl (fun dict entry => insert dict entry.1 entry.2) []

/-- The value under a text key. -/
def lookup? (entries : Dict) (key : String) : Option Value :=
  (entries.find? fun entry => sameKey entry.1 (.text key)).map Prod.snd

end Value

end RideQuery
