/-!
# Decimal texts of doubles

A finite double is a sign and a dyadic number `mantissa · 2 ^ exponent`.  All decisions about its
decimal text are made on these two integers.
-/

namespace TablePartitioning.Decimal

/-! ## The exact value of a double -/

/-- What the 64 bits of a double stand for. -/
inductive Binary where
  | notANumber
  | infinite (negative : Bool)
  | finite (negative : Bool) (mantissa : Nat) (exponent : Int)

/-- Read the sign, the exponent and the fraction of a double. -/
def Binary.ofFloat (value : Float) : Binary :=
  let bits := value.toBits.toNat
  let negative := bits / Nat.pow 2 63 == 1
  let exponent : Nat := bits / Nat.pow 2 52 % Nat.pow 2 11
  let fraction := bits % Nat.pow 2 52
  if exponent == 2047 then
    if fraction == 0 then .infinite negative else .notANumber
  else if exponent == 0 then .finite negative fraction (-1074)
  else .finite negative (Nat.pow 2 52 + fraction) (exponent - 1075)

/-- The integer nearest to `mantissa · 2 ^ exponent`, a half going away from zero. -/
def roundMagnitude (mantissa : Nat) (exponent : Int) : Nat :=
  if 0 ≤ exponent then mantissa * Nat.pow 2 exponent.toNat
  else
    let unit := Nat.pow 2 (-exponent).toNat
    (2 * mantissa + unit) / (2 * unit)

/-! ## The fewest digits that read back

Among the decimals that lie in the interval of reals rounding to a given double, `shortest`
takes one with the fewest digits, and of those the nearest to the double.  The search walks the
decimal grids from one digit to seventeen and looks at the two grid points around the double: if
any point of a grid lies in the interval, one of these two does.
-/

/-- The decimal number `digits · 10 ^ exponent`. -/
structure Scaled where
  digits : Nat
  exponent : Int
deriving DecidableEq

/-- A positive double with the interval of reals that round to it, all over one denominator. -/
structure Interval where
  low : Nat
  value : Nat
  high : Nat
  denominator : Nat
  /-- The ends round to the double too, its mantissa being even. -/
  closed : Bool

/--
The interval of `mantissa · 2 ^ exponent`.  The gap below a power of two is half the gap above it.
-/
def Interval.ofBinary (mantissa : Nat) (exponent : Int) : Interval :=
  let below := if mantissa == Nat.pow 2 52 && -1074 < exponent then 1 else 2
  let scale := Nat.pow 2 (exponent - 2).toNat
  { low := (4 * mantissa - below) * scale
    value := 4 * mantissa * scale
    high := (4 * mantissa + 2) * scale
    denominator := Nat.pow 2 (2 - exponent).toNat
    closed := mantissa % 2 == 0 }

/-- Multiply a numerator or a denominator so that a fraction is divided by `10 ^ exponent`. -/
def scaleDown (exponent : Int) (numerator denominator : Nat) : Nat × Nat :=
  (numerator * Nat.pow 10 (-exponent).toNat, denominator * Nat.pow 10 exponent.toNat)

/-- Whether a decimal lies in the interval. -/
def Interval.contains (interval : Interval) (candidate : Scaled) : Bool :=
  let point := candidate.digits * Nat.pow 10 candidate.exponent.toNat * interval.denominator
  let scale := Nat.pow 10 (-candidate.exponent).toNat
  let low := interval.low * scale
  let high := interval.high * scale
  if interval.closed then low ≤ point && point ≤ high else low < point && point < high

/-- The exponent `k` with `10 ^ (k - 1) ≤ numerator / denominator < 10 ^ k`. -/
def decimalExponent (numerator denominator : Nat) : Int :=
  if denominator ≤ numerator then (Nat.toDigits 10 (numerator / denominator)).length
  else
    let vanishes (places : Nat) : Bool := numerator * Nat.pow 10 (places + 1) < denominator
    let zeros := ((List.range 400).takeWhile vanishes).length
    Int.negOfNat zeros

/-- The nearer of the two grid points around the value, if one of them lies in the interval. -/
def Interval.onGrid? (interval : Interval) (exponent : Int) : Option Scaled :=
  let (numerator, denominator) := scaleDown exponent interval.value interval.denominator
  let below := numerator / denominator
  let remainder := 2 * (numerator % denominator)
  let lower : Scaled := ⟨below, exponent⟩
  let upper : Scaled := ⟨below + 1, exponent⟩
  match interval.contains lower, interval.contains upper with
  | true, true =>
      if remainder < denominator || (remainder == denominator && below % 2 == 0) then some lower
      else some upper
  | true, false => some lower
  | false, true => some upper
  | false, false => none

/-- Move trailing zeros of the digits into the exponent, at most `count` of them. -/
def Scaled.withoutZeros : Nat → Scaled → Scaled
  | 0, number => number
  | count + 1, number =>
      if number.digits % 10 == 0 && number.digits != 0 then
        Scaled.withoutZeros count ⟨number.digits / 10, number.exponent + 1⟩
      else number

/-- The decimal with the fewest digits that reads back as `mantissa · 2 ^ exponent`. -/
def shortest (mantissa : Nat) (exponent : Int) : Scaled :=
  if mantissa == 0 then ⟨0, 0⟩
  else
    let interval := Interval.ofBinary mantissa exponent
    let top := decimalExponent interval.value interval.denominator
    let found := (List.range 17).findSome? fun index =>
      interval.onGrid? (top - ((index : Nat) + 1 : Int))
    (found.getD ⟨0, 0⟩).withoutZeros 17

/-! ## Layouts

`positional` writes all places around the point; `scientific` writes one digit before the point
and a power of ten.
-/

/-- Digits with a point in front of the last `places`, without trailing point. -/
def pointed (digits : List Char) (places : Nat) : List Char :=
  let filled := List.replicate (places + 1 - digits.length) '0' ++ digits
  let whole := filled.take (filled.length - places)
  let fraction := filled.drop (filled.length - places)
  if fraction.isEmpty then whole else whole ++ '.' :: fraction

/-- All places of a decimal, with no point where it is an integer. -/
def Scaled.positional (number : Scaled) : String :=
  String.ofList <|
    pointed (Nat.toDigits 10 (number.digits * Nat.pow 10 number.exponent.toNat))
      (-number.exponent).toNat

/-- The power of ten of the first digit. -/
def Scaled.leadingExponent (number : Scaled) : Int :=
  number.exponent + (Nat.toDigits 10 number.digits).length - 1

/-- One digit, the others after a point, and the power of ten with its sign. -/
def Scaled.scientific (number : Scaled) : String :=
  let digits := Nat.toDigits 10 number.digits
  let power := number.leadingExponent
  String.ofList (pointed digits (digits.length - 1)) ++ "e" ++
    (if power < 0 then "-" else "+") ++ power.natAbs.repr

/-! ## Plain decimals -/

/-- The fewest digits that read back, in all places; an integer has no point. -/
def plainText (value : Float) : String :=
  match Binary.ofFloat value with
  | .notANumber => "NaN"
  | .infinite negative => if negative then "-inf" else "inf"
  | .finite negative mantissa exponent =>
      (if negative then "-" else "") ++ (shortest mantissa exponent).positional

/-- The double nearest to `digits · 10 ^ power`, if it is not too large. -/
def nearest? (digits : Nat) (power : Int) : Option Float :=
  let leading := power + (Nat.toDigits 10 digits).length
  if digits = 0 || leading < -400 then some 0
  else if 400 < leading then none
  else
    let value := Float.ofScientific digits (power < 0) power.natAbs
    if value.isInf then none else some value

end TablePartitioning.Decimal
