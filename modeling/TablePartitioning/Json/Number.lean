import TablePartitioning.Decimal
import TablePartitioning.Json.Basic
import TablePartitioning.Text.Numeral

/-!
# JSON numbers

Reading and writing the numbers that are not integers.  A number is read from the digits that fit
64 bits, scaled once by a power of ten, and written with the fewest digits that stand for the same
double.
-/

namespace TablePartitioning.Json

open TablePartitioning.Decimal

/--
The text of a double: all places of numbers from `0.00001` on and below `10 ^ 16`, and a power of
ten for the others.  A number without fraction ends in `.0`; there is no text for the values that
are no numbers, which are written as `null`.
-/
def floatText (value : Float) : String :=
  match Binary.ofFloat value with
  | .finite negative mantissa exponent =>
      let number := shortest mantissa exponent
      let sign := if negative then "-" else ""
      let inPlaces := mantissa == 0 || (-5 ≤ number.leadingExponent && number.leadingExponent < 16)
      if !inPlaces then sign ++ number.scientific
      else if 0 ≤ number.exponent then sign ++ number.positional ++ ".0"
      else sign ++ number.positional
  | _ => "null"

/-- The parts of a number: its sign, the digits around the point and the power of ten. -/
structure NumberParts where
  negative : Bool
  whole : List Char
  /-- The digits after the point, if there is a point. -/
  fraction : Option (List Char)
  /-- The power of ten with its sign, if one is written. -/
  power : Option (Bool × List Char)

/-- A leading digit run that is not empty, and what follows it. -/
def digitRun? (chars : List Char) : Option (List Char × List Char) :=
  match chars.takeWhile Char.isDigit with
  | [] => none
  | digits => some (digits, chars.dropWhile Char.isDigit)

/-- The power of ten at the end of a number. -/
def power? : List Char → Option (Option (Bool × List Char))
  | [] => some none
  | mark :: rest =>
      if mark = 'e' || mark = 'E' then
        let (negative, digits) :=
          match rest with
          | '+' :: digits => (false, digits)
          | '-' :: digits => (true, digits)
          | digits => (false, digits)
        match digitRun? digits with
        | some (digits, []) => some (some (negative, digits))
        | _ => none
      else none

/-- Take a number apart; leading zeros and empty digit runs are refused. -/
def NumberParts.ofChars? (chars : List Char) : Option NumberParts := do
  let (negative, unsigned) :=
    match chars with
    | '-' :: rest => (true, rest)
    | _ => (false, chars)
  let (whole, rest) ← digitRun? unsigned
  if whole.head? = some '0' && whole.length ≠ 1 then none
  match rest with
  | '.' :: rest =>
      let (fraction, rest) ← digitRun? rest
      let power ← power? rest
      return ⟨negative, whole, some fraction, power⟩
  | _ =>
      let power ← power? rest
      return ⟨negative, whole, none, power⟩

/--
Digits put behind a value as long as the result fits 64 bits, and the number of digits left over.
-/
def significand (value : Nat) : List Char → Nat × Nat
  | [] => (value, 0)
  | digit :: rest =>
      let next := value * 10 + (digit.toNat - '0'.toNat)
      if next < Word.count 64 then significand next rest else (value, rest.length + 1)

/-- Scale by a power of ten, in steps of `10 ^ 308`; a number that is too large is refused. -/
def scale? (value : Float) (power : Int) : Option Float :=
  let powerOfTen (exponent : Nat) : Float := Float.ofScientific 1 false exponent
  if value == 0 then some value
  else if 308 < power then none
  else if 0 ≤ power then
    let scaled := value * powerOfTen power.toNat
    if scaled.isInf then none else some scaled
  else if -308 ≤ power then some (value / powerOfTen (-power).toNat)
  else if -616 ≤ power then
    some (value / powerOfTen 308 / powerOfTen (-power - 308).toNat)
  else if -924 ≤ power then
    some (value / powerOfTen 308 / powerOfTen 308 / powerOfTen (-power - 616).toNat)
  else some 0

/-- The value of a number; only a power of ten beyond all doubles has none. -/
def NumberParts.value? (parts : NumberParts) : Option Json :=
  let sign (value : Float) : Float := if parts.negative then -value else value
  let power : Int :=
    match parts.power with
    | some (negative, digits) =>
        let magnitude := Nat.ofDigitChars 10 digits 0
        if negative then -(magnitude : Int) else magnitude
    | none => 0
  let fraction := parts.fraction.getD []
  let integer := Nat.ofDigitChars 10 parts.whole 0
  if parts.fraction.isNone && parts.power.isNone && integer < Word.count 64 then
    if !parts.negative then some (.integer integer)
    else if integer == 0 then some (.float (-0.0))
    else if integer ≤ Word.signedBound 64 then some (.integer (-(integer : Int)))
    else some (.float (sign (Float.ofNat integer)))
  else
    let (whole, wholeLeft) := significand 0 parts.whole
    let (digits, fractionLeft) := significand whole fraction
    let shift : Int := (wholeLeft : Int) + fractionLeft - fraction.length + power
    (scale? (Float.ofNat digits) shift).map fun value => .float (sign value)

/-- Read a number. -/
def number? (chars : List Char) : Option Json :=
  (NumberParts.ofChars? chars).bind NumberParts.value?

end TablePartitioning.Json
