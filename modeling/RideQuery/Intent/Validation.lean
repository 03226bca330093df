import RideQuery.Intent.Draft

/-!
# Validation of intents

Checking a record member by member.  Every member that is missing or has the
wrong form is reported by its path, such as `filter_conditions.0.operator`; members
that are not known are passed over.  Some values are taken for others: a truth
value is a number, a tuple is a list, and `yes` and `1` are truth values.
-/

namespace RideQuery

open RideQuery.Number

/-- A checked value, or the paths of the members that were refused. -/
abbrev Checked (α : Type) := Except (List String) α

namespace Checked

/-- Refuses the member at a path. -/
def refuse {α : Type} (path : String) : Checked α :=
  .error [path]

/-- Both of two checks; the refusals of either are kept. -/
def both {α β : Type} : Checked α → Checked β → Checked (α × β)
  | .ok a, .ok b => .ok (a, b)
  | .ok _, .error paths => .error paths
  | .error paths, .ok _ => .error paths
  | .error paths, .error others => .error (paths ++ others)

/-- Every one of some checks. -/
def all {α : Type} : List (Checked α) → Checked (List α)
  | [] => .ok []
  | check :: rest => (both check (all rest)).map fun (a, others) => a :: others

end Checked

namespace Validation

/-- The path of a member below another. -/
def below (path member : String) : String :=
  path ++ "." ++ member

/-! ## Single values -/

/-- A text. -/
def textMember (path : String) : Value → Checked String
  | .text s => .ok s
  | _ => .refuse path

/-- A member of a worded type. -/
def wordedMember {α : Type} [Worded α] (path : String) : Value → Checked α
  | .text s =>
    match ofWording? s with
    | some member => .ok member
    | none => .refuse path
  | _ => .refuse path

/-- Nothing, or a member of the right form. -/
def optional {α : Type} (check : Value → Checked α) : Value → Checked (Option α)
  | .null => .ok none
  | value => (check value).map some

/-- The texts that stand for a truth value, in small letters. -/
def truthTexts : List (String × Bool) :=
  [("0", false), ("f", false), ("n", false), ("no", false), ("off", false), ("false", false),
    ("1", true), ("t", true), ("y", true), ("on", true), ("yes", true), ("true", true)]

/-- The truth value that a number is: nought or one. -/
def truthOfNumber? (value : Value) : Option Bool :=
  if Value.sameKey value (.int 0) then some false
  else if Value.sameKey value (.int 1) then some true
  else none

/-- The truth value that a value can be taken for. -/
def truth? : Value → Option Bool
  | .text s => truthTexts.lookup (String.ofList (s.toList.map Char.toLower))
  | value => truthOfNumber? value

/-- A truth value. -/
def truthMember (path : String) (value : Value) : Checked Bool :=
  match truth? value with
  | some b => .ok b
  | none => .refuse path

/-- A list of texts. -/
def texts? (items : List Value) : Option (List String) :=
  items.mapM Value.text?

/-- The filter value that a decimal can be taken for: an integer if it is one, else a float. -/
def ofDecimal? (d : Decimal) : Option FilterValue :=
  match d with
  | .finite negative coefficient exponent =>
    if 0 ≤ exponent then
      some (.int (Binary64.signed negative (coefficient * 10 ^ exponent.toNat)))
    else if coefficient % 10 ^ (-exponent).toNat = 0 then
      some (.int (Binary64.signed negative (coefficient / 10 ^ (-exponent).toNat)))
    else
      d.toBinary64.toOption.map .float
  | _ => d.toBinary64.toOption.map .float

/-- The filter value that a value can be taken for. -/
def filterValue? : Value → Option FilterValue
  | .int n => some (.int n)
  | .bool b => some (.int (if b then 1 else 0))
  | .float x => some (.float x)
  | .text s => some (.text s)
  | .decimal d => ofDecimal? d
  | .list items => (texts? items).map .texts
  | .tuple items => (texts? items).map .texts
  | _ => none

/-- A filter value. -/
def filterValueMember (path : String) (value : Value) : Checked FilterValue :=
  match filterValue? value with
  | some checked => .ok checked
  | none => .refuse path

/-! ## Members of records -/

/-- A member that has to be there. -/
def required {α : Type} (entries : Dict) (path key : String) (check : String → Value → Checked α) :
    Checked α :=
  match Value.lookup? entries key with
  | some value => check (below path key) value
  | none => .refuse (below path key)

/-- A member with a default, at a path of its own. -/
def defaulted {α : Type} (entries : Dict) (path key : String) (default : α)
    (check : String → Value → Checked α) : Checked α :=
  match Value.lookup? entries key with
  | some value => check path value
  | none => .ok default

/-- The members of a list or a tuple, each checked at its position. -/
def listMember {α : Type} (check : String → Value → Checked α) (path : String) (value : Value) :
    Checked (List α) :=
  match value with
  | .list items | .tuple items =>
    Checked.all (items.mapIdx fun index item => check (below path (Nat.repr index)) item)
  | _ => .refuse path

/-- A filter. -/
def filterMember (path : String) (value : Value) : Checked Filter :=
  match value with
  | .dict entries =>
    (Checked.both
      (Checked.both (required entries path "column" textMember)
        (required entries path "operator" wordedMember))
      (Checked.both (required entries path "value" filterValueMember)
        (defaulted entries (below path "is_parameterized") "is_parameterized" true
          truthMember))).map
      fun ((column, operator), (value, parameterised)) =>
        { column, operator, value, parameterised }
  | _ => .refuse path

/-- An optional member of a record, at the path below the record's. -/
def optionalMember {α : Type} (entries : Dict) (path key : String)
    (check : String → Value → Checked α) : Checked (Option α) :=
  defaulted entries (below path key) key none fun path => optional (check path)

/-- A date range. -/
def dateRangeMember (path : String) (value : Value) : Checked DateRange :=
  match value with
  | .dict entries =>
    (Checked.both
      (Checked.both (optionalMember entries path "start_date" textMember)
        (optionalMember entries path "end_date" textMember))
      (Checked.both (optionalMember entries path "relative_date" wordedMember)
        (Checked.both (optionalMember entries path "specific_month" textMember)
          (optionalMember entries path "specific_year" textMember)))).map
      fun ((startDate, endDate), (relativeDate, (specificMonth, specificYear))) =>
        { startDate, endDate, relativeDate, specificMonth, specificYear }
  | _ => .refuse path

/-- An intent's members, unordered refusals included. -/
def intentMembers (entries : Dict) : Checked Intent :=
  (Checked.both
    (Checked.both (defaulted entries "type" "type" .aggregation wordedMember)
      (defaulted entries "aggregation_type" "aggregation_type" .count wordedMember))
    (Checked.both
      (defaulted entries "filter_conditions" "filter_conditions" [] (listMember filterMember))
      (Checked.both
        (defaulted entries "date_range" "date_range" none fun path =>
          optional (dateRangeMember path))
        (defaulted entries "group_by" "group_by" [] (listMember textMember))))).map
    fun ((kind, aggregation), (filters, (dateRange, groupBy))) =>
      { kind, aggregation, filters, dateRange, groupBy }

/-- Paths in alphabetical order, each once. -/
def sortedPaths (paths : List String) : List String :=
  paths.eraseDups.mergeSort fun a b => a ≤ b

end Validation

/-- The intent that a record stands for, or the paths of the members that were refused. -/
def Intent.ofValue (record : Value) : Checked Intent :=
  (Validation.intentMembers record.entriesOf).mapError Validation.sortedPaths

end RideQuery
