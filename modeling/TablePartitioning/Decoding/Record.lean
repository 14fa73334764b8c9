import TablePartitioning.Decoding.Error

/-!
# Decoding records

A record is written as an object with its fields in any order, or as an array with its fields in
the order of declaration.  The same record can be read from different formats: a `Source` says
what a value of the format is taken for, a `RecordShape` says what the fields of the record are.
-/

namespace TablePartitioning

/-- What a value holds: named fields, a sequence, or neither. -/
inductive Contents (Value : Type) where
  | fields (entries : List (String × Value))
  | items (values : List Value)
  | single

/-- How the values of a format are read. -/
structure Source (Value : Type) where
  contents : Value → Contents Value
  found : Value → Found
  isNull : Value → Bool
  text : Value → Except DecodeError String
  flag : Value → Except DecodeError Bool
  /-- A natural number below a bound; the text names the numbers that are expected. -/
  natural : Nat → String → Value → Except DecodeError Nat
  /-- Arrays with more items than the record has fields are refused. -/
  refusesLonger : Bool

/-- A field of a record. -/
structure RecordField (Value Record : Type) where
  /-- The name that the field is written under. -/
  name : String
  /-- Other names that it is read under. -/
  aliases : List String
  store : Value → Record → Except DecodeError Record
  /-- An object without the field is refused. -/
  required : Bool

/-- A record: its name, its value before any field is read, and its fields as declared. -/
structure RecordShape (Value Record : Type) where
  name : String
  initial : Record
  fields : List (RecordField Value Record)
  /-- An array may leave out its last fields. -/
  allowsShorter : Bool

namespace RecordField

/-- Whether the field is read under a name. -/
def answersTo (field : RecordField Value Record) (name : String) : Bool :=
  name = field.name || field.aliases.contains name

end RecordField

namespace RecordShape

/-- Store the named values in order; the names of the fields stored so far are given. -/
def storeEntries
    (shape : RecordShape Value Record) :
    List (String × Value) → List String → Record → Except DecodeError (List String × Record)
  | [], seen, record => .ok (seen, record)
  | (name, value) :: rest, seen, record =>
      match shape.fields.find? (·.answersTo name) with
      | none => shape.storeEntries rest seen record
      | some field =>
          if seen.contains field.name then .error (.duplicateField field.name)
          else
            match field.store value record with
            | .error error => .error error
            | .ok record => shape.storeEntries rest (field.name :: seen) record

/-- The first required field, as declared, that has not been stored. -/
def missing? (shape : RecordShape Value Record) (seen : List String) : Option String :=
  (shape.fields.find? fun field => field.required && !seen.contains field.name).map (·.name)

/-- Decode an object. -/
def ofEntries
    (shape : RecordShape Value Record) (entries : List (String × Value)) :
    Except DecodeError Record :=
  match shape.storeEntries entries [] shape.initial with
  | .error error => .error error
  | .ok (seen, record) =>
      match shape.missing? seen with
      | some name => .error (.missingField name)
      | none => .ok record

/-- Store values in the order of the fields, as far as both go. -/
def storeItems :
    List (RecordField Value Record) → List Value → Record → Except DecodeError Record
  | field :: fields, value :: values, record =>
      match field.store value record with
      | .error error => .error error
      | .ok record => storeItems fields values record
  | _, _, record => .ok record

/-- Decode an array. -/
def ofItems
    (source : Source Value) (shape : RecordShape Value Record) (values : List Value) :
    Except DecodeError Record :=
  match storeItems shape.fields values shape.initial with
  | .error error => .error error
  | .ok record =>
      if values.length < shape.fields.length && !shape.allowsShorter then
        .error <| .invalidLength values.length <|
          "struct " ++ shape.name ++ " with " ++ shape.fields.length.repr ++ " elements"
      else if shape.fields.length < values.length && source.refusesLonger then
        .error (.invalidLength values.length "fewer elements in array")
      else .ok record

/-- Decode a record from a value. -/
def decode
    (source : Source Value) (shape : RecordShape Value Record) (value : Value) :
    Except DecodeError Record :=
  match source.contents value with
  | .fields entries => shape.ofEntries entries
  | .items values => shape.ofItems source values
  | .single => .error (.invalidType (source.found value) ("struct " ++ shape.name))

end RecordShape

namespace Source

/-- A value that may be null. -/
def optional
    (source : Source Value) (read : Value → Except DecodeError α) (value : Value) :
    Except DecodeError (Option α) :=
  if source.isNull value then .ok none else (read value).map some

end Source

end TablePartitioning
