import TablePartitioning.Json.Writer
import TablePartitioning.Text.Classes

/-!
# Why a value does not decode

An error says what was found and what was expected in its place, or which field of a record is
missing or given twice.
-/

namespace TablePartitioning

/-- The kind of a value, with the value itself where it is a single word or text. -/
inductive Found where
  | null
  | bool (value : Bool)
  | integer (value : Int)
  | float (value : Float)
  | string (value : String)
  | sequence
  | map

/-- The value as a message cites it. -/
def Found.description : Found → String
  | .null => "null"
  | .bool value => if value then "boolean \x60true\x60" else "boolean \x60false\x60"
  | .integer value => "integer \x60" ++ Text.Numeral.ofInt value ++ "\x60"
  | .float value => "floating point \x60" ++ Json.floatText value ++ "\x60"
  | .string value => "string " ++ Text.Quoted.quote value
  | .sequence => "sequence"
  | .map => "map"

/-- Why a value does not decode. -/
inductive DecodeError where
  /-- A value of another kind. -/
  | invalidType (found : Found) (expected : String)
  /-- A value of the right kind out of its range. -/
  | invalidValue (found : Found) (expected : String)
  | missingField (name : String)
  | duplicateField (name : String)
  /-- An array with too few or too many items. -/
  | invalidLength (length : Nat) (expected : String)
  /-- A text that names nothing of its kind. -/
  | unknownName (message : String)

/-- The text of an error. -/
def DecodeError.message : DecodeError → String
  | .invalidType found expected =>
      "invalid type: " ++ found.description ++ ", expected " ++ expected
  | .invalidValue found expected =>
      "invalid value: " ++ found.description ++ ", expected " ++ expected
  | .missingField name => "missing field \x60" ++ name ++ "\x60"
  | .duplicateField name => "duplicate field \x60" ++ name ++ "\x60"
  | .invalidLength length expected =>
      "invalid length " ++ length.repr ++ ", expected " ++ expected
  | .unknownName message => message

end TablePartitioning
