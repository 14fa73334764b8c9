import TablePartitioning.Decimal
import TablePartitioning.Json.Basic
import TablePartitioning.Text.Numeral

/-!
# Numbers in TOML

Integers have 64 bits with sign and may be written in other bases; an underscore may stand between
two digits.  A number with a fraction or a power of ten is a double.
-/

namespace TablePartitioning.Toml

/-- Digits of a base with underscores between them, without the underscores. -/
def digits? (isDigit : Char → Bool) (chars : List Char) : Option (List Char) :=
  let groups := chars.splitOn '_'
  if groups.all fun group => !group.isEmpty && group.all isDigit then some groups.flatten
  else none

/-- Decimal digits that do not begin with a zero, unless there is only one. -/
def whole? (chars : List Char) : Option (List Char) :=
  (digits? Char.isDigit chars).filter fun digits =>
    digits.length = 1 || digits.head? ≠ some '0'

/-- A sign, and what follows it. -/
def sign : List Char → Bool × List Char
  | '-' :: rest => (true, rest)
  | '+' :: rest => (false, rest)
  | chars => (false, chars)

/-- An integer in a base of its own, without sign. -/
def based? (base : Nat) (chars : List Char) : Option Nat :=
  let value (c : Char) : Nat := (Text.hexDigit? c).getD base
  (digits? (fun c => value c < base) chars).map fun digits =>
    digits.foldl (fun number c => number * base + value c) 0

/-- An integer. -/
def integer? (chars : List Char) : Option Int :=
  let magnitude : Option Int :=
    match chars with
    | '0' :: 'x' :: rest => (based? 16 rest).map Int.ofNat
    | '0' :: 'o' :: rest => (based? 8 rest).map Int.ofNat
    | '0' :: 'b' :: rest => (based? 2 rest).map Int.ofNat
    | chars =>
        let (negative, unsigned) := sign chars
        (whole? unsigned).map fun digits =>
          let number := Int.ofNat (Nat.ofDigitChars 10 digits 0)
          if negative then -number else number
  magnitude.filter fun value =>
    -Word.signedBound 64 ≤ value && value < Word.signedBound 64

/-- The fraction of a number, if it has one. -/
def fraction? : List Char → Option (List Char)
  | [] => some []
  | '.' :: rest => digits? Char.isDigit rest
  | _ => none

/-- The power of ten of a number, which may have leading zeros. -/
def power? (chars : List Char) : Option Int :=
  let (negative, unsigned) := sign chars
  (digits? Char.isDigit unsigned).map fun digits =>
    let power := Int.ofNat (Nat.ofDigitChars 10 digits 0)
    if negative then -power else power

/-- A number without sign that has a fraction or a power of ten, or is not finite. -/
def unsignedFloat? (chars : List Char) : Option Float := do
  if chars = "inf".toList then return 1.0 / 0.0
  if chars = "nan".toList then return 0.0 / 0.0
  let isMark (c : Char) : Bool := c = 'e' || c = 'E'
  if chars.all fun c => !isMark c && c != '.' then none
  let mantissa := chars.takeWhile (!isMark ·)
  let power ←
    match chars.dropWhile (!isMark ·) with
    | [] => some 0
    | _ :: rest => power? rest
  let whole ← whole? (mantissa.takeWhile (· ≠ '.'))
  let fraction ← fraction? (mantissa.dropWhile (· ≠ '.'))
  Decimal.nearest? (Nat.ofDigitChars 10 (whole ++ fraction) 0) (power - fraction.length)

/-- A number that is no integer. -/
def float? (chars : List Char) : Option Float :=
  let (negative, unsigned) := sign chars
  (unsignedFloat? unsigned).map fun value => if negative then -value else value

/-- A number. -/
def number? (chars : List Char) : Option Json :=
  match integer? chars with
  | some value => some (.integer value)
  | none => (float? chars).map .float

end TablePartitioning.Toml
