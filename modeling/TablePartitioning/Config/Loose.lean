import TablePartitioning.Decimal
import TablePartitioning.Decoding.Strict
import TablePartitioning.Text.Basic
import TablePartitioning.Text.Numeral

/-!
# Settings taken loosely

Environment variables hold nothing but texts, so settings are converted to what they are needed
as: numbers and truth values to texts, words like `on` and `no` to truth values, and all of these
to numbers.  Lists and tables are not converted.
-/

namespace TablePartitioning.Json

/-- Words that mean yes. -/
def yesWords : List String := ["true", "on", "yes"]

/-- Words that mean no. -/
def noWords : List String := ["false", "off", "no"]

/-- Whether a text is one of some words, in upper or lower case. -/
def isWord (words : List String) (text : String) : Bool :=
  words.any fun word => Text.sameIgnoringCase word text

/-- A text, or the text of a single value; integers beyond 64 bits with sign count as doubles. -/
def looseText : Json → Except DecodeError String
  | .string value => .ok value
  | .bool value => .ok (if value then "true" else "false")
  | .integer value =>
      .ok (if value < Word.signedBound 64 then Text.Numeral.ofInt value
        else Decimal.plainText (Float.ofInt value))
  | .float value => .ok (Decimal.plainText value)
  | value => .error (.invalidType value.found "a string")

/-- A truth value, a word for one, or a number that is zero or not. -/
def looseFlag : Json → Except DecodeError Bool
  | .bool value => .ok value
  | .integer value => .ok (value ≠ 0)
  | .float value => .ok (value != 0)
  | .string value =>
      if value = "1" || isWord yesWords value then .ok true
      else if value = "0" || isWord noWords value then .ok false
      else .error (.invalidType (.string value) "a boolean")
  | value => .error (.invalidType value.found "a boolean")

/-- A double as a natural number of 64 bits, rounded, and cut off at the ends. -/
def clampedNatural (value : Float) : Nat :=
  match Decimal.Binary.ofFloat value with
  | .notANumber => 0
  | .infinite negative => if negative then 0 else Word.count 64 - 1
  | .finite negative mantissa exponent =>
      if negative then 0 else min (Decimal.roundMagnitude mantissa exponent) (Word.count 64 - 1)

/-- A natural number, or what can be taken for one. -/
def natural? : Json → Except DecodeError Nat
  | .bool value => .ok (if value then 1 else 0)
  | .integer value =>
      if value < 0 then .error (.invalidValue (.integer value) "u64")
      else if value < Word.signedBound 64 then .ok value.toNat
      else .ok (clampedNatural (Float.ofInt value))
  | .float value => .ok (clampedNatural value)
  | .string value =>
      if isWord yesWords value then .ok 1
      else if isWord noWords value then .ok 0
      else
        match Text.Numeral.below? (Word.count 64) value with
        | some number => .ok number
        | none => .error (.invalidType (.string value) "u64")
  | value => .error (.invalidType value.found "u64")

/-- A natural number below a bound. -/
def looseNatural (bound : Nat) (expected : String) (value : Json) : Except DecodeError Nat :=
  match natural? value with
  | .error error => .error error
  | .ok number =>
      if number < bound then .ok number
      else .error (.invalidValue (.integer number) expected)

/-- Reading settings; an array may have more items than there are fields. -/
def loose : Source Json where
  contents := strict.contents
  found := found
  isNull := strict.isNull
  text := looseText
  flag := looseFlag
  natural := looseNatural
  refusesLonger := false

end TablePartitioning.Json
