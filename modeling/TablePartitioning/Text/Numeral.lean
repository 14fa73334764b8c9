/-!
# Numerals

Writing an integer without padding, and reading one between bounds.  A numeral that is read has
at least one ASCII digit, any number of leading zeros, and a sign where the reader allows it.  The
bounds are those of the machine integers.
-/

namespace TablePartitioning

/-! ## Machine integers -/

namespace Word

/-- The number of words of so many bits: the bound of the natural numbers that fit. -/
def count (bits : Nat) : Nat := Nat.pow 2 bits

/-- The bound of the signed integers that fit, and the negative of the least of them. -/
def signedBound (bits : Nat) : Int := Nat.pow 2 (bits - 1)

end Word

namespace Text

/-! ## Decimal numerals -/

namespace Numeral

/-- An integer in decimal, with a minus sign where it is negative. -/
def ofInt (value : Int) : String :=
  if value < 0 then "-" ++ value.natAbs.repr else value.natAbs.repr

/-- Digits in front of which zeros fill up to a width. -/
def padded (width value : Nat) : String :=
  let digits := Nat.toDigits 10 value
  String.ofList (List.replicate (width - digits.length) '0' ++ digits)

/-- The value of a non-empty run of digits. -/
def digits? (chars : List Char) : Option Nat :=
  if !chars.isEmpty && chars.all Char.isDigit then some (Nat.ofDigitChars 10 chars 0) else none

/-- A numeral below a bound, a plus sign allowed. -/
def below? (bound : Nat) (text : String) : Option Nat :=
  let digits :=
    match text.toList with
    | '+' :: rest => rest
    | chars => chars
  (digits? digits).filter (· < bound)

/-- A signed numeral between two bounds, both included. -/
def between? (lowest highest : Int) (text : String) : Option Int :=
  let value :=
    match text.toList with
    | '+' :: rest => (digits? rest).map Int.ofNat
    | '-' :: rest => (digits? rest).map fun magnitude => -(Int.ofNat magnitude)
    | chars => (digits? chars).map Int.ofNat
  value.filter fun value => lowest ≤ value && value ≤ highest

/-- The numeral of the digits that a text starts with, if it is below a bound. -/
def leadingBelow? (bound : Nat) (chars : List Char) : Option Nat :=
  (digits? (chars.takeWhile Char.isDigit)).filter (· < bound)

/-- What is written reads back. -/
@[simp]
theorem digits?_toDigits (value : Nat) : digits? (Nat.toDigits 10 value) = some value := by
  have digits : (Nat.toDigits 10 value).all Char.isDigit = true :=
    List.all_eq_true.2 fun _ member => Nat.isDigit_of_mem_toDigits (by decide) (by decide) member
  simp [digits?, digits, Nat.toDigits_ne_nil, Nat.ofDigitChars_ten_toDigits]

end Numeral

/-! ## Hexadecimal digits

Characters may be written by their code points, in hexadecimal digits of either case.  The code
points of half pairs are those of no character.
-/

/-- The value of a hexadecimal digit. -/
def hexDigit? (c : Char) : Option Nat :=
  if c.isDigit then some (c.toNat - '0'.toNat)
  else if 'a' ≤ c && c ≤ 'f' then some (c.toNat - 'a'.toNat + 10)
  else if 'A' ≤ c && c ≤ 'F' then some (c.toNat - 'A'.toNat + 10)
  else none

/-- The number that hexadecimal digits stand for. -/
def hexNumber? (digits : List Char) : Option Nat :=
  digits.foldlM (fun number c => (hexDigit? c).map fun digit => number * 16 + digit) 0

/-- The character of a code point. -/
def charOfCode? (code : Nat) : Option Char :=
  if code < 0xD800 || (0xDFFF < code && code ≤ 0x10FFFF) then some (Char.ofNat code) else none

/-- The character at the start of a text that is written in a number of digits. -/
def codePoint? (width : Nat) (chars : List Char) : Option (Char × List Char) :=
  if chars.length < width then none
  else
    ((hexNumber? (chars.take width)).bind charOfCode?).map fun c => (c, chars.drop width)

end Text

end TablePartitioning
