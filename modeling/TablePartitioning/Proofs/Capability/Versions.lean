import Mathlib.Data.Prod.Lex
import Mathlib.Order.Compare
import TablePartitioning.Proofs.Text.NeatTexts
import TablePartitioning.Server.Backend

/-!
# What a server says of its version

A text tells a version when it starts with a number, the blanks in front of it aside.  The second
number is that of the part behind the first point, and zero where this part tells none.  Whatever a
server writes before, between and behind the two numbers, they are found again, and versions are
compared as the pairs that they make.
-/

namespace TablePartitioning.ServerVersion

open Text.Numeral (LeadingDigits digits? digits?_eq_some_iff digits?_padded leadingBelow?
  leadingBelow?_eq_some_iff padded)

/-- A text starts with a number of 32 bits, which all the digits in front of it make. -/
def Starts (text : String) (number : Nat) : Prop :=
  ∃ digits, LeadingDigits text.toList digits ∧ Nat.ofDigitChars 10 digits 0 = number ∧
    number < Word.count 32

/-- The second number of a text: the one that its second part starts with, or zero where there is no
second part or it starts with none. -/
def SecondNumber (text : String) (number : Nat) : Prop :=
  (∃ part ∈ (Text.pieces '.' text)[1]?, Starts part number) ∨
    number = 0 ∧ ∀ part ∈ (Text.pieces '.' text)[1]?, ∀ other, ¬ Starts part other

/-- What a text is read as. -/
structure ReadsText (text : String) : Prop where
  readable : (∃ version, ofText? text = some version) ↔ ∃ number, Starts (Text.trim text) number
  numbers : ∀ version, ofText? text = some version ↔
    Starts (Text.trim text) version.major ∧ SecondNumber (Text.trim text) version.minor

/-- A version as a server tells it: zeros fill up both numbers to some width, blanks stand around
the whole, and behind the second number is anything but a digit. -/
structure Telling where
  version : ServerVersion
  majorWidth : Nat
  minorWidth : Nat
  before : String
  suffix : String
  after : String
  majorFits : version.major < Word.count 32
  minorFits : version.minor < Word.count 32
  blankBefore : Text.isBlankText before = true
  blankAfter : Text.isBlankText after = true
  ended : ∀ c, suffix.toList.head? = some c → c.isDigit = false

/-- The text that is told. -/
def Telling.text (telling : Telling) : String :=
  telling.before ++ padded telling.majorWidth telling.version.major ++ "." ++
    padded telling.minorWidth telling.version.minor ++ telling.suffix ++ telling.after

/-- The numbers of a version, of which the first decides unless it is the same. -/
def numbers (version : ServerVersion) : Nat ×ₗ Nat := toLex (version.major, version.minor)

variable {text : String} {version : ServerVersion}

/-! ## Reading -/

theorem starts_iff {number : Nat} :
    Starts text number ↔ leadingBelow? (Word.count 32) text.toList = some number :=
  leadingBelow?_eq_some_iff.symm

/-- The first part of a text starts with the number that the text starts with. -/
theorem leadingBelow?_head_splitOn {bound : Nat} {chars first : List Char}
    {pieces : List (List Char)} (cut : chars.splitOn '.' = first :: pieces) :
    leadingBelow? bound first = leadingBelow? bound chars := by
  rw [leadingBelow?, leadingBelow?, Text.takeWhile_head_splitOn (by decide) cut]

theorem secondNumber_iff {minor : Nat} :
    SecondNumber text minor ↔
      ((Text.pieces '.' text)[1]?.bind fun part =>
        leadingBelow? (Word.count 32) part.toList).getD 0 = minor := by
  simp only [SecondNumber, starts_iff]
  cases (Text.pieces '.' text)[1]? with
  | none => simp [eq_comm]
  | some part =>
      simp only [Option.mem_some_iff, exists_eq_left', forall_eq', Option.bind_some]
      cases leadingBelow? (Word.count 32) part.toList with
      | none => simp [eq_comm]
      | some number => simp

theorem exists_secondNumber (text : String) : ∃ number, SecondNumber text number :=
  ⟨_, secondNumber_iff.mpr rfl⟩

theorem ofText?_eq_some_iff :
    ofText? text = some version ↔
      Starts (Text.trim text) version.major ∧ SecondNumber (Text.trim text) version.minor := by
  obtain ⟨first, rest, cut⟩ := List.exists_cons_of_ne_nil
    (List.splitOn_ne_nil '.' (Text.trimWhere Text.isBlank text.toList))
  have second : (Text.pieces '.' (Text.trim text))[1]? = rest.head?.map String.ofList := by
    rw [Text.pieces, Text.toList_trim, cut, List.map_cons, List.getElem?_cons_succ,
      List.getElem?_map, List.head?_eq_getElem?]
  rw [starts_iff, secondNumber_iff, second, Text.toList_trim, ofText?, cut]
  simp only [leadingBelow?_head_splitOn cut, Option.map_eq_some_iff, Option.bind_map,
    Function.comp_def, String.toList_ofList]
  cases version
  constructor
  · rintro ⟨major, read, ⟨⟩⟩
    exact ⟨read, rfl⟩
  · rintro ⟨read, rfl⟩
    exact ⟨_, read, rfl⟩

theorem readsText (text : String) : ReadsText text where
  numbers _ := ofText?_eq_some_iff
  readable := by
    constructor
    · rintro ⟨version, read⟩
      exact ⟨version.major, (ofText?_eq_some_iff.mp read).1⟩
    · rintro ⟨major, starts⟩
      obtain ⟨minor, second⟩ := exists_secondNumber (Text.trim text)
      exact ⟨⟨major, minor⟩, ofText?_eq_some_iff.mpr ⟨starts, second⟩⟩

/-! ## Telling -/

theorem starts_of_digits? {run rest : List Char} {number : Nat} (fits : number < Word.count 32)
    (read : digits? run = some number) (ended : ∀ c, rest.head? = some c → c.isDigit = false)
    (chars : text.toList = run ++ rest) : Starts text number := by
  obtain ⟨nonempty, allDigits, value⟩ := digits?_eq_some_iff.mp read
  exact ⟨run, ⟨nonempty, allDigits, rest, chars, ended⟩, value, fits⟩

theorem secondNumber_of_starts {before after : List Char} {number : Nat} (apart : '.' ∉ before)
    (chars : text.toList = before ++ '.' :: after) (starts : Starts (String.ofList after) number) :
    SecondNumber text number := by
  obtain ⟨first, others, cut⟩ := List.exists_cons_of_ne_nil (List.splitOn_ne_nil '.' after)
  have second : (Text.pieces '.' text)[1]? = some (String.ofList first) := by
    rw [Text.pieces, chars, Text.splitOn_append_left apart, List.splitOn_cons_eq_if_modifyHead,
      if_pos BEq.rfl, cut]
    rfl
  refine .inl ⟨_, second, ?_⟩
  rw [starts_iff, String.toList_ofList] at starts ⊢
  rwa [leadingBelow?_head_splitOn cut]

theorem isDigit_of_mem_padded {width number : Nat} {c : Char}
    (member : c ∈ (padded width number).toList) : c.isDigit = true :=
  Text.Numeral.isDigit_of_digits? (digits?_padded width number) member

namespace Telling

/-- Both numbers, with the point between them. -/
def core (telling : Telling) : List Char :=
  (padded telling.majorWidth telling.version.major).toList ++ '.' ::
    (padded telling.minorWidth telling.version.minor).toList

theorem toList_text (telling : Telling) :
    telling.text.toList = telling.before.toList ++
      (telling.core ++ (telling.suffix.toList ++ telling.after.toList)) := by
  simp [text, core, String.toList_append]

theorem isBlank_of_mem_core (telling : Telling) :
    ∀ c ∈ telling.core, Text.isBlank c = false := by
  intro c member
  rw [core, List.mem_append, List.mem_cons] at member
  rcases member with inMajor | rfl | inMinor
  · exact Text.isBlank_of_isDigit (isDigit_of_mem_padded inMajor)
  · rfl
  · exact Text.isBlank_of_isDigit (isDigit_of_mem_padded inMinor)

/-- Behind the second number is no digit, whether or not there is a suffix before the blanks. -/
theorem isDigit_of_head? (telling : Telling) {c : Char}
    (head : (telling.suffix.toList ++ telling.after.toList).head? = some c) : c.isDigit = false := by
  cases suffixed : telling.suffix.toList with
  | cons first rest =>
      rw [suffixed] at head
      exact telling.ended c (by rw [suffixed]; exact head)
  | nil =>
      rw [suffixed, List.nil_append] at head
      have blank := List.all_eq_true.mp telling.blankAfter c (List.mem_of_head? head)
      cases digit : c.isDigit with
      | false => rfl
      | true => rw [Text.isBlank_of_isDigit digit] at blank; cases blank

/-- Trimming leaves both numbers, and behind them nothing that starts with a digit. -/
theorem exists_toList_trim (telling : Telling) : ∃ left : List Char,
    (∀ c, left.head? = some c → c.isDigit = false) ∧
      (Text.trim telling.text).toList = telling.core ++ left := by
  have nonempty : telling.core ≠ [] := by simp [core]
  obtain ⟨left, isPrefix, trimmed⟩ :=
    Text.exists_trimWhere_append nonempty telling.isBlank_of_mem_core
      (telling.suffix.toList ++ telling.after.toList)
  refine ⟨left, ?_, ?_⟩
  · intro c head
    obtain ⟨rest, whole⟩ := isPrefix
    apply telling.isDigit_of_head?
    rw [← whole, List.head?_append, head, Option.some_or]
  · have blank : ∀ c ∈ telling.before.toList, Text.isBlank c = true :=
      List.all_eq_true.mp telling.blankBefore
    rw [Text.toList_trim, toList_text, Text.trimWhere_append_left blank, trimmed]

theorem ofText?_text (telling : Telling) : ofText? telling.text = some telling.version := by
  obtain ⟨left, ended, trimmed⟩ := telling.exists_toList_trim
  have chars : (Text.trim telling.text).toList =
      (padded telling.majorWidth telling.version.major).toList ++ '.' ::
        ((padded telling.minorWidth telling.version.minor).toList ++ left) := by
    rw [trimmed, core, List.append_assoc, List.cons_append]
  rw [ofText?_eq_some_iff]
  constructor
  · exact starts_of_digits? telling.majorFits (digits?_padded _ _) (by simp) chars
  · refine secondNumber_of_starts ?_ chars ?_
    · intro point
      cases isDigit_of_mem_padded point
    · exact starts_of_digits? telling.minorFits (digits?_padded _ _) ended String.toList_ofList

example : ∃ telling : Telling,
    telling.text = "\t005.07-log " ∧ ofText? telling.text = some ⟨5, 7⟩ :=
  ⟨⟨⟨5, 7⟩, 3, 2, "\t", "-log", " ", by decide, by decide, by decide, by decide, by simp⟩,
    by decide, by decide⟩

end Telling

/-! ## Comparing -/

theorem compares_numbers (left right : ServerVersion) :
    (left.compare right).Compares left.numbers right.numbers := by
  rw [compare, numbers, numbers]
  rcases lt_trichotomy left.major right.major with before | same | behind
  · rw [Nat.compare_eq_lt.mpr before]
    exact Prod.Lex.toLex_lt_toLex.mpr (.inl before)
  · rw [Nat.compare_eq_eq.mpr same, same]
    rcases lt_trichotomy left.minor right.minor with before | sameMinor | behind
    · rw [Nat.compare_eq_lt.mpr before]
      exact Prod.Lex.toLex_lt_toLex.mpr (.inr ⟨rfl, before⟩)
    · rw [Nat.compare_eq_eq.mpr sameMinor, sameMinor]
      rfl
    · rw [Nat.compare_eq_gt.mpr behind]
      exact Prod.Lex.toLex_lt_toLex.mpr (.inr ⟨rfl, behind⟩)
  · rw [Nat.compare_eq_gt.mpr behind]
    exact Prod.Lex.toLex_lt_toLex.mpr (.inl behind)

/-- Texts are read as the two numbers that they tell, however these are told, and the numbers are
compared in their order. -/
theorem versions_read :
    (∀ text, ReadsText text) ∧ (∀ telling : Telling, ofText? telling.text = some telling.version) ∧
      ∀ left right : ServerVersion,
        (left.compare right).Compares left.numbers right.numbers :=
  ⟨readsText, Telling.ofText?_text, compares_numbers⟩

end TablePartitioning.ServerVersion
