import TablePartitioning.Decoding.Record

/-!
# JSON values taken as they are

Rows of a server and settings in JSON are read strictly: a text is never taken for a number, nor a
number with a fraction for an integer, even where it has the same value.
-/

namespace TablePartitioning.Json

/-- The kind of a value. -/
def found : Json → Found
  | .null => .null
  | .bool value => .bool value
  | .integer value => .integer value
  | .float value => .float value
  | .string value => .string value
  | .array _ => .sequence
  | .object _ => .map

/-- A text. -/
def asText : Json → Except DecodeError String
  | .string value => .ok value
  | value => .error (.invalidType value.found "a string")

/-- A truth value. -/
def asFlag : Json → Except DecodeError Bool
  | .bool value => .ok value
  | value => .error (.invalidType value.found "a boolean")

/-- An integer between two bounds, the upper one excluded. -/
def asInteger (lowest bound : Int) (expected : String) : Json → Except DecodeError Int
  | .integer value =>
      if lowest ≤ value && value < bound then .ok value
      else .error (.invalidValue (.integer value) expected)
  | value => .error (.invalidType value.found expected)

/-- A natural number below a bound. -/
def asNatural (bound : Nat) (expected : String) (value : Json) : Except DecodeError Nat :=
  (value.asInteger 0 bound expected).map Int.toNat

/-- Reading JSON values as they are. -/
def strict : Source Json where
  contents
    | .object fields => .fields fields
    | .array items => .items items
    | _ => .single
  found := found
  isNull
    | .null => true
    | _ => false
  text := asText
  flag := asFlag
  natural := asNatural
  refusesLonger := true

end TablePartitioning.Json
