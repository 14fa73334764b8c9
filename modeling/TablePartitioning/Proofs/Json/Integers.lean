import Mathlib.Data.List.TakeWhile
import TablePartitioning.Json.Token
import TablePartitioning.Proofs.Text.Numeral

/-!
# Integers in JSON

An integer that fits 64 bits is read from its numeral as the same integer.  A numeral is written
without leading zeros, and zero without a sign, so that neither is refused nor taken for a double.
-/

namespace TablePartitioning.Json

variable {value : Nat} {digits chars : List Char} {integer : Int} {number : Json}

theorem isWideInteger_iff :
    isWideInteger integer = true ↔
      -Word.signedBound 64 ≤ integer ∧ integer < (Word.count 64 : Int) := by
  rw [isWideInteger, Bool.and_eq_true, decide_eq_true_eq, decide_eq_true_eq]

theorem isWideInteger_of_signed (lowest : -Word.signedBound 64 ≤ integer)
    (below : integer < Word.signedBound 64) : isWideInteger integer = true := by
  have half : Word.signedBound 64 < (Word.count 64 : Int) := by decide
  exact isWideInteger_iff.mpr ⟨lowest, Int.lt_trans below half⟩

theorem isWideInteger_of_unsigned (below : value < Word.count 64) :
    isWideInteger (value : Int) = true := by
  have lowest : -Word.signedBound 64 ≤ 0 := by decide
  have least := Int.le_trans lowest (Int.natCast_nonneg value)
  exact isWideInteger_iff.mpr ⟨least, Int.ofNat_lt.mpr below⟩

theorem head?_toDigits_eq_zero_iff : (Nat.toDigits 10 value).head? = some '0' ↔ value = 0 := by
  induction value using Nat.strongRecOn with
  | ind value inductionHypothesis =>
      rw [Nat.toDigits_eq_if (by decide)]
      split
      · next small =>
          have digit : ∀ value < 10, Nat.digitChar value = '0' ↔ value = 0 := by decide
          rw [List.head?_cons, Option.some.injEq, digit value small]
      · next large =>
          have earlier := inductionHypothesis (value / 10) (by omega)
          obtain ⟨first, rest, split⟩ := List.exists_cons_of_ne_nil
            (Nat.toDigits_ne_nil : Nat.toDigits 10 (value / 10) ≠ [])
          rw [split, List.head?_cons] at earlier
          rw [split, List.cons_append, List.head?_cons, earlier]
          omega

theorem digitRun?_of_digits (nonempty : digits ≠ []) (all : ∀ c ∈ digits, c.isDigit = true) :
    digitRun? digits = some (digits, []) := by
  have taken : digits.takeWhile Char.isDigit = digits := List.takeWhile_eq_self_iff.mpr all
  have left : digits.dropWhile Char.isDigit = [] := List.dropWhile_eq_nil_iff.mpr all
  cases digits with
  | nil => exact absurd rfl nonempty
  | cons c rest => rw [digitRun?, taken, left]

/-- A numeral without fraction and power is its sign and its digits. -/
theorem ofChars?_toDigits (negative : Bool) (value : Nat) :
    NumberParts.ofChars? ((if negative then ['-'] else []) ++ Nat.toDigits 10 value) =
      some ⟨negative, Nat.toDigits 10 value, none, none⟩ := by
  have nonempty : Nat.toDigits 10 value ≠ [] := Nat.toDigits_ne_nil
  have all : ∀ c ∈ Nat.toDigits 10 value, c.isDigit = true := fun c member =>
    Nat.isDigit_of_mem_toDigits (by decide) (by decide) member
  have run := digitRun?_of_digits nonempty all
  have unpadded : ¬ ((Nat.toDigits 10 value).head? = some '0' ∧
      (Nat.toDigits 10 value).length ≠ 1) := by
    rintro ⟨zero, long⟩
    rw [head?_toDigits_eq_zero_iff.mp zero, Nat.toDigits_zero] at long
    exact long rfl
  cases negative with
  | true => simp [NumberParts.ofChars?, run, unpadded, power?]
  | false =>
      -- without a sign the first match is on a minus that no digit is
      have unsigned : ∀ rest, Nat.toDigits 10 value ≠ '-' :: rest := by
        intro rest same
        have minus := all '-' (by simp [same])
        cases minus
      simp only [NumberParts.ofChars?]
      split
      · next rest same => exact absurd same (unsigned rest)
      · simp [run, unpadded, power?]

theorem value?_toDigits (negative : Bool) (proper : negative = true → value ≠ 0)
    (wide : isWideInteger (if negative then -(value : Int) else value) = true) :
    NumberParts.value? ⟨negative, Nat.toDigits 10 value, none, none⟩ =
      some (.integer (if negative then -(value : Int) else value)) := by
  rw [isWideInteger_iff] at wide
  have half : Word.signedBound 64 < (Word.count 64 : Int) := by decide
  have fits : value < Word.count 64 := by
    cases negative <;> simp at wide <;> omega
  cases negative with
  | false => simp [NumberParts.value?, Nat.ofDigitChars_ten_toDigits, fits]
  | true =>
      have nonzero : value ≠ 0 := proper rfl
      have least : (value : Int) ≤ Word.signedBound 64 := by simpa using wide.1
      simp [NumberParts.value?, Nat.ofDigitChars_ten_toDigits, fits, nonzero, least]

/-- An integer that fits is read from its numeral. -/
theorem number?_ofInt (wide : isWideInteger integer = true) :
    number? (Text.Numeral.ofInt integer).toList = some (.integer integer) := by
  have chars : (Text.Numeral.ofInt integer).toList =
      (if decide (integer < 0) then ['-'] else []) ++ Nat.toDigits 10 integer.natAbs := by
    rw [Text.Numeral.ofInt]
    by_cases negative : integer < 0 <;> simp [negative, Nat.toList_repr]
  have signed : (if decide (integer < 0) then -(integer.natAbs : Int) else integer.natAbs) =
      integer := by
    simp only [decide_eq_true_eq]
    split <;> omega
  have proper : decide (integer < 0) = true → integer.natAbs ≠ 0 := by
    simp only [decide_eq_true_eq]
    omega
  rw [number?, chars, ofChars?_toDigits, Option.bind_some,
    value?_toDigits _ proper (signed.symm ▸ wide), signed]

namespace Token

theorem ofWord?_of_number (numeral : ∀ c ∈ chars, c.isDigit = true ∨ c = '-')
    (read : number? chars = some number) : ofWord? chars.reverse = some (.word number) := by
  have foreign {word : String} (letter : Char) (inside : letter ∈ word.toList)
      (noDigit : letter.isDigit = false) (noSign : letter ≠ '-') : chars ≠ word.toList := by
    rintro rfl
    rcases numeral letter inside with digit | minus
    · rw [noDigit] at digit
      cases digit
    · exact noSign minus
  have notNull : chars ≠ "null".toList :=
    foreign 'n' (by decide) (by decide) (by decide)
  have notTrue : chars ≠ "true".toList :=
    foreign 't' (by decide) (by decide) (by decide)
  have notFalse : chars ≠ "false".toList :=
    foreign 'f' (by decide) (by decide) (by decide)
  rw [ofWord?, List.reverse_reverse]
  simp only [if_neg notNull, if_neg notTrue, if_neg notFalse, read, Option.map_some]

end Token

end TablePartitioning.Json
