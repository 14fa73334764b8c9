import TablePartitioning.Text.Basic
import TablePartitioning.Text.Numeral

/-!
# Reading numerals back

An integer is read from an optional sign and a run of digits, however many zeros the run starts
with.
-/

namespace TablePartitioning.Text.Numeral

/-- The integer of a numeral, without bounds. -/
def integer? (text : String) : Option Int :=
  match text.toList with
  | '+' :: rest => (digits? rest).map Int.ofNat
  | '-' :: rest => (digits? rest).map fun magnitude => -(Int.ofNat magnitude)
  | chars => (digits? chars).map Int.ofNat

theorem toList_padded (width value : Nat) :
    (padded width value).toList =
      List.replicate (width - (Nat.toDigits 10 value).length) '0' ++ Nat.toDigits 10 value := by
  rw [padded, String.toList_ofList]

@[simp]
theorem digits?_zeros (zeros value : Nat) :
    digits? (List.replicate zeros '0' ++ Nat.toDigits 10 value) = some value := by
  have digits : (Nat.toDigits 10 value).all Char.isDigit = true := by
    apply List.all_eq_true.mpr
    intro digit member
    exact Nat.isDigit_of_mem_toDigits (by decide) (by decide) member
  have padding : (List.replicate zeros '0').all Char.isDigit = true := by
    simp [Char.isDigit]
  rw [digits?, List.all_append, padding, digits]
  simp [Nat.toDigits_ne_nil, Nat.ofDigitChars_append, Nat.ofDigitChars_ten_toDigits]

theorem digits?_padded (width value : Nat) :
    digits? (padded width value).toList = some value := by
  rw [toList_padded, digits?_zeros]

/-- Digits start with no sign, so that they are read as they stand. -/
theorem integer?_of_digits {text : String} {value : Nat}
    (read : digits? text.toList = some value) : integer? text = some (value : Int) := by
  unfold integer?
  split
  · next rest chars =>
      rw [chars] at read
      simp [digits?, Char.isDigit] at read
  · next rest chars =>
      rw [chars] at read
      simp [digits?, Char.isDigit] at read
  · rw [read]
    rfl

theorem integer?_of_minus {text : String} {value : Nat}
    (read : digits? text.toList = some value) :
    integer? ("-" ++ text) = some (-(value : Int)) := by
  simp [integer?, String.toList_append, read]

theorem integer?_of_plus {text : String} {value : Nat}
    (read : digits? text.toList = some value) :
    integer? ("+" ++ text) = some (value : Int) := by
  simp [integer?, String.toList_append, read]

theorem integer?_ofInt (value : Int) : integer? (ofInt value) = some value := by
  have read : digits? value.natAbs.repr.toList = some value.natAbs := by
    rw [Nat.toList_repr]
    exact digits?_toDigits value.natAbs
  unfold ofInt
  split
  · have magnitude : -(value.natAbs : Int) = value := by omega
    rw [integer?_of_minus read, magnitude]
  · have magnitude : (value.natAbs : Int) = value := by omega
    rw [integer?_of_digits read, magnitude]

theorem ofInt_inj {first second : Int} : ofInt first = ofInt second ↔ first = second := by
  constructor
  · intro same
    have read := congrArg integer? same
    rwa [integer?_ofInt, integer?_ofInt, Option.some.injEq] at read
  · rintro rfl
    rfl

theorem ofInt_natCast (value : Nat) : ofInt (value : Int) = value.repr := by
  have nonnegative : ¬ (value : Int) < 0 := by omega
  rw [ofInt, if_neg nonnegative, Int.natAbs_natCast]

/-! ## The characters of a numeral -/

theorem toNat_of_isDigit {c : Char} (digit : c.isDigit = true) :
    48 ≤ c.toNat ∧ c.toNat ≤ 57 := by
  rw [Char.isDigit, Bool.and_eq_true, decide_eq_true_eq, decide_eq_true_eq, ge_iff_le,
    UInt32.le_iff_toNat_le, UInt32.le_iff_toNat_le] at digit
  exact digit

theorem isDigit_of_mem_repr {value : Nat} {c : Char} (member : c ∈ value.repr.toList) :
    c.isDigit = true := by
  rw [Nat.toList_repr] at member
  exact Nat.isDigit_of_mem_toDigits (by decide) (by decide) member

theorem exists_isDigit_ofInt (value : Int) :
    ∃ c ∈ (ofInt value).toList, c.isDigit = true := by
  have nonempty : value.natAbs.repr.toList ≠ [] := by
    rw [Nat.toList_repr]
    exact Nat.toDigits_ne_nil
  obtain ⟨digit, member⟩ := List.exists_mem_of_ne_nil _ nonempty
  refine ⟨digit, ?_, isDigit_of_mem_repr member⟩
  unfold ofInt
  split
  · rw [String.toList_append]
    exact List.mem_append_right _ member
  · exact member

theorem mem_ofInt {value : Int} {c : Char} (member : c ∈ (ofInt value).toList) :
    c.isDigit = true ∨ c = '-' := by
  unfold ofInt at member
  split at member
  · rw [String.toList_append] at member
    rcases List.mem_append.mp member with sign | digit
    · exact .inr (by simpa using sign)
    · exact .inl (isDigit_of_mem_repr digit)
  · exact .inl (isDigit_of_mem_repr member)

theorem digits?_eq_some_iff {chars : List Char} {value : Nat} :
    digits? chars = some value ↔
      chars ≠ [] ∧ (∀ c ∈ chars, c.isDigit = true) ∧ Nat.ofDigitChars 10 chars 0 = value := by
  simp [digits?, and_assoc]

theorem isDigit_of_digits? {chars : List Char} {value : Nat} (read : digits? chars = some value)
    {c : Char} (member : c ∈ chars) : c.isDigit = true :=
  (digits?_eq_some_iff.mp read).2.1 c member

theorem mem_of_integer? {text : String} {value : Int} (read : integer? text = some value) {c : Char}
    (member : c ∈ text.toList) : c.isDigit = true ∨ c = '+' ∨ c = '-' := by
  unfold integer? at read
  split at read
  · next rest chars =>
      obtain ⟨magnitude, digits, _⟩ := Option.map_eq_some_iff.mp read
      rw [chars] at member
      rcases List.mem_cons.mp member with sign | digit
      · exact .inr (.inl sign)
      · exact .inl (isDigit_of_digits? digits digit)
  · next rest chars =>
      obtain ⟨magnitude, digits, _⟩ := Option.map_eq_some_iff.mp read
      rw [chars] at member
      rcases List.mem_cons.mp member with sign | digit
      · exact .inr (.inr sign)
      · exact .inl (isDigit_of_digits? digits digit)
  · obtain ⟨magnitude, digits, _⟩ := Option.map_eq_some_iff.mp read
    exact .inl (isDigit_of_digits? digits member)

/-! ## The digits that a text starts with -/

/-- The digits that a text starts with: there is one at least, and none follows them. -/
structure LeadingDigits (chars run : List Char) : Prop where
  nonempty : run ≠ []
  digits : ∀ c ∈ run, c.isDigit = true
  ended : ∃ rest, chars = run ++ rest ∧ ∀ c, rest.head? = some c → c.isDigit = false

theorem leadingDigits_iff {chars digits : List Char} :
    LeadingDigits chars digits ↔ digits ≠ [] ∧ chars.takeWhile Char.isDigit = digits := by
  constructor
  · rintro ⟨nonempty, allDigits, rest, rfl, ended⟩
    have stops : rest.takeWhile Char.isDigit = [] := by
      cases rest with
      | nil => rfl
      | cons c others => rw [List.takeWhile_cons_of_neg (by simpa using ended c rfl)]
    refine ⟨nonempty, ?_⟩
    rw [List.takeWhile_append_of_pos allDigits, stops, List.append_nil]
  · rintro ⟨nonempty, rfl⟩
    refine ⟨nonempty, ?_, chars.dropWhile Char.isDigit, ?_, ?_⟩
    · exact fun c member => List.all_eq_true.mp List.all_takeWhile c member
    · exact List.takeWhile_append_dropWhile.symm
    · exact fun c head => head?_dropWhile head

theorem leadingBelow?_eq_some_iff {bound value : Nat} {chars : List Char} :
    leadingBelow? bound chars = some value ↔
      ∃ digits, LeadingDigits chars digits ∧ Nat.ofDigitChars 10 digits 0 = value ∧
        value < bound := by
  rw [leadingBelow?, Option.filter_eq_some_iff, digits?_eq_some_iff, decide_eq_true_eq]
  constructor
  · rintro ⟨⟨nonempty, _, read⟩, below⟩
    exact ⟨_, leadingDigits_iff.mpr ⟨nonempty, rfl⟩, read, below⟩
  · rintro ⟨digits, leading, read, below⟩
    rw [(leadingDigits_iff.mp leading).2]
    exact ⟨⟨leading.nonempty, leading.digits, read⟩, below⟩

end TablePartitioning.Text.Numeral
