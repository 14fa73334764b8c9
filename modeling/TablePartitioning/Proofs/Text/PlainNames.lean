import TablePartitioning.Identifier
import TablePartitioning.Proofs.Text.Numeral

/-!
# Names that end in a number

A name without backquotes is an identifier when all its characters are plain.  Digits are plain and
the minus sign is not, so that a word with a number after it names a partition exactly when the
number is not negative.  Neither is a letter, so that the word and the number can be told from the
name.
-/

namespace TablePartitioning

namespace Text.Numeral

/-- A word with a number after it, where there is one. -/
def numbered (word : String) : Option Int → String
  | some value => word ++ ofInt value
  | none => word

theorem isAlpha_of_isDigit {c : Char} (digit : c.isDigit = true) : c.isAlpha = false := by
  have bounds := toNat_of_isDigit digit
  have letter : c.isAlpha = (c.isUpper || c.isLower) := rfl
  have upper : c.isUpper = decide ('A'.val ≤ c.val ∧ c.val ≤ 'Z'.val) := rfl
  have lower : c.isLower = (decide ('a'.val ≤ c.val) && decide (c.val ≤ 'z'.val)) := rfl
  have beforeUpper : ¬ 'A'.val ≤ c.val := by
    rw [UInt32.le_iff_toNat_le]
    show ¬ 65 ≤ c.toNat
    omega
  have beforeLower : ¬ 'a'.val ≤ c.val := by
    rw [UInt32.le_iff_toNat_le]
    show ¬ 97 ≤ c.toNat
    omega
  rw [letter, upper, lower, decide_eq_false beforeLower, Bool.false_and, Bool.or_false,
    decide_eq_false_iff_not]
  exact fun within => beforeUpper within.1

theorem isAlpha_of_mem_ofInt {value : Int} {c : Char} (member : c ∈ (ofInt value).toList) :
    c.isAlpha = false := by
  rcases mem_ofInt member with digit | rfl
  · exact isAlpha_of_isDigit digit
  · rfl

/-- The word is what the name begins with in letters. -/
theorem takeWhile_numbered {word : String} (alphabetic : word.toList.all Char.isAlpha = true)
    (number : Option Int) : (numbered word number).toList.takeWhile Char.isAlpha = word.toList := by
  have letters := List.all_eq_true.mp alphabetic
  cases number with
  | none =>
      show word.toList.takeWhile Char.isAlpha = word.toList
      rw [← List.append_nil word.toList, List.takeWhile_append_of_pos letters]
      rfl
  | some value =>
      have stops : (ofInt value).toList.takeWhile Char.isAlpha = [] := by
        cases chars : (ofInt value).toList with
        | nil => rfl
        | cons first rest =>
            have unlettered : first.isAlpha = false :=
              isAlpha_of_mem_ofInt (by rw [chars]; exact List.mem_cons_self)
            rw [List.takeWhile_cons, unlettered]
            rfl
      show (word ++ ofInt value).toList.takeWhile Char.isAlpha = word.toList
      rw [String.toList_append, List.takeWhile_append_of_pos letters, stops, List.append_nil]

theorem numbered_word_injective {word : String} {first second : Option Int}
    (same : numbered word first = numbered word second) : first = second := by
  have nonempty (value : Int) : (ofInt value).toList ≠ [] := by
    obtain ⟨digit, member, _⟩ := exists_isDigit_ofInt value
    exact List.ne_nil_of_mem member
  have chars := congrArg String.toList same
  cases first with
  | none =>
      cases second with
      | none => rfl
      | some value =>
          rw [numbered, numbered, String.toList_append] at chars
          exact absurd (List.self_eq_append_right.mp chars) (nonempty value)
  | some value =>
      cases second with
      | none =>
          rw [numbered, numbered, String.toList_append] at chars
          exact absurd (List.append_right_eq_self.mp chars) (nonempty value)
      | some other =>
          rw [numbered, numbered, String.toList_append, String.toList_append] at chars
          have numerals := String.toList_inj.mp (List.append_cancel_left chars)
          rw [ofInt_inj.mp numerals]

theorem numbered_inj {firstWord secondWord : String} {first second : Option Int}
    (firstAlphabetic : firstWord.toList.all Char.isAlpha = true)
    (secondAlphabetic : secondWord.toList.all Char.isAlpha = true)
    (same : numbered firstWord first = numbered secondWord second) :
    firstWord = secondWord ∧ first = second := by
  have words : firstWord = secondWord := by
    have begun := congrArg (fun name => name.toList.takeWhile Char.isAlpha) same
    simp only [takeWhile_numbered firstAlphabetic, takeWhile_numbered secondAlphabetic] at begun
    exact String.toList_inj.mp begun
  subst words
  exact ⟨rfl, numbered_word_injective same⟩

end Text.Numeral

namespace Identifier

theorem isPlainChar_of_isDigit {c : Char} (digit : c.isDigit = true) : isPlainChar c = true := by
  simp [isPlainChar, Text.isAsciiAlphanumeric, digit]

theorem isValidChars_of_unquoted {chars : List Char} (unquoted : backquote ∉ chars) :
    isValidChars chars = isPlain chars := by
  cases chars with
  | nil => rfl
  | cons first rest =>
      have different : first ≠ backquote := by
        rintro rfl
        exact unquoted List.mem_cons_self
      simp [isValidChars, quoted?, different]

theorem backquote_not_mem_append_ofInt {word : String}
    (plain : word.toList.all isPlainChar = true) (value : Int) :
    backquote ∉ (word ++ Text.Numeral.ofInt value).toList := by
  rw [String.toList_append, List.mem_append]
  rintro (inWord | inNumber)
  · cases List.all_eq_true.mp plain backquote inWord
  · rcases Text.Numeral.mem_ofInt inNumber with digit | sign
    · cases digit
    · cases sign

theorem isValid_append_ofInt {word : String}
    (plain : word.toList.all isPlainChar = true) (value : Int) :
    isValid (word ++ Text.Numeral.ofInt value) = decide (0 ≤ value) := by
  have unquoted := backquote_not_mem_append_ofInt plain value
  rw [isValid, isValidChars_of_unquoted unquoted, isPlain, String.toList_append, List.all_append]
  rw [plain, Bool.true_and]
  by_cases negative : value < 0
  · have number : (Text.Numeral.ofInt value).toList = '-' :: value.natAbs.repr.toList := by
      rw [Text.Numeral.ofInt, if_pos negative, String.toList_append]
      rfl
    have sign : isPlainChar '-' = false := by decide
    simp [number, sign, negative]
  · have number : (Text.Numeral.ofInt value).toList = Nat.toDigits 10 value.natAbs := by
      rw [Text.Numeral.ofInt, if_neg negative, Nat.toList_repr]
    have digits : (Nat.toDigits 10 value.natAbs).all isPlainChar = true := by
      apply List.all_eq_true.mpr
      intro c member
      exact isPlainChar_of_isDigit (Nat.isDigit_of_mem_toDigits (by decide) (by decide) member)
    have accepted : decide (0 ≤ value) = true := decide_eq_true (by omega)
    simp [number, digits, accepted, Nat.toDigits_ne_nil]

end Identifier

end TablePartitioning
