/-!
# Room on the stack

Values hold other values, and whatever goes down into them takes a place of the stack at
each level.  How many places are left depends on who asks for it, so the room is an
argument of everything that writes, displays or reads values of any depth.  Where no place
is left, the failure says what there was no room for.
-/

namespace RideQuery

/-- What there may be no room for. -/
inductive Activity where
  /-- Writing a collection as JSON. -/
  | encoding
  /-- Reading an array of JSON. -/
  | decodingArray
  /-- Reading an object of JSON. -/
  | decodingObject
  /-- Displaying a value for inspection. -/
  | inspecting
  /-- Displaying a value as it is. -/
  | displaying
  /-- Calling a function that comes with the language. -/
  | calling
  /-- Calling a function that is written in the language. -/
  | running
  deriving DecidableEq

/-- What the wording of a failure ends with. -/
def Activity.ending : Activity → String
  | .encoding => " while encoding a JSON object"
  | .decodingArray => " while decoding a JSON array from a unicode string"
  | .decodingObject => " while decoding a JSON object from a unicode string"
  | .inspecting => " while getting the repr of an object"
  | .displaying => " while getting the str of an object"
  | .calling => " while calling a Python object"
  | .running => ""

/-- The wording of the failure to do something for want of room. -/
def Activity.message (activity : Activity) : String :=
  "maximum recursion depth exceeded" ++ activity.ending

/-- The kind that every want of room is reported under. -/
def Activity.kind : String := "RecursionError"

/-- How many places of the stack are left, by what is done with values. -/
structure Room where
  /-- Where values are written as JSON. -/
  writing : Nat
  /-- Where values are displayed. -/
  showing : Nat
  /-- Where values are read as JSON. -/
  reading : Nat

end RideQuery
