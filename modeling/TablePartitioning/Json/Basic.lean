import TablePartitioning.Text.Numeral

/-!
# JSON values

The data that servers answer, that configuration files hold and that results are printed as.  An
object that is read has its fields in the order of their names, each name once; an object that is
written keeps the order of its fields.
-/

namespace TablePartitioning

/-- A JSON value; a number without fraction and exponent that fits 64 bits is an integer. -/
inductive Json where
  | null
  | bool (value : Bool)
  | integer (value : Int)
  | float (value : Float)
  | string (value : String)
  | array (items : List Json)
  | object (fields : List (String × Json))
deriving Inhabited

namespace Json

/-- The integers that a JSON number can hold exactly: signed or unsigned 64 bits. -/
def isWideInteger (value : Int) : Bool :=
  -Word.signedBound 64 ≤ value && value < Word.count 64

/-- Put a field at its place in the order of names; a field of the same name is replaced. -/
def insertField (name : String) (value : Json) : List (String × Json) → List (String × Json)
  | [] => [(name, value)]
  | (other, old) :: rest =>
      if name = other then (name, value) :: rest
      else if name < other then (name, value) :: (other, old) :: rest
      else (other, old) :: insertField name value rest

/-- An object from fields in any order; of two fields with one name the later counts. -/
def ofFields (fields : List (String × Json)) : Json :=
  .object (fields.foldl (fun sorted (name, value) => insertField name value sorted) [])

/-- The field of an object with a name. -/
def field? (name : String) : Json → Option Json
  | .object fields => fields.lookup name
  | _ => none

/-- An optional value, null where there is none. -/
def ofOption (wrap : α → Json) : Option α → Json
  | some value => wrap value
  | none => .null

end Json

end TablePartitioning
