import TablePartitioning.Proofs.Text.PlainNames
import TablePartitioning.Proofs.Text.Trimming

/-!
# What names a partition

A name is plain, of ASCII letters, digits, underscores and dollar signs, or it is a text between
two backquotes that has no backquote itself.  Taking the backquotes away leaves a plain name as it
is and gives the text between them otherwise, which may be anything else.
-/

namespace TablePartitioning.Identifier

/-- A text of ASCII letters, digits, underscores and dollar signs, at least one of them. -/
structure Plain (text : String) : Prop where
  nonempty : text ≠ ""
  allowed : ∀ c ∈ text.toList,
    ('A' ≤ c ∧ c ≤ 'Z') ∨ ('a' ≤ c ∧ c ≤ 'z') ∨ ('0' ≤ c ∧ c ≤ '9') ∨ c = '_' ∨ c = '$'

/-- A text between two backquotes. -/
def quote (inner : String) : String :=
  String.ofList (backquote :: (inner.toList ++ [backquote]))

/-- A plain text, or one between backquotes that is not empty and has no backquote itself. -/
def Names (text : String) : Prop :=
  Plain text ∨ ∃ inner, inner ≠ "" ∧ backquote ∉ inner.toList ∧ text = quote inner

theorem isPlainChar_iff {c : Char} :
    isPlainChar c = true ↔
      ('A' ≤ c ∧ c ≤ 'Z') ∨ ('a' ≤ c ∧ c ≤ 'z') ∨ ('0' ≤ c ∧ c ≤ '9') ∨ c = '_' ∨ c = '$' := by
  have letter : c.isAlpha = (c.isUpper || c.isLower) := rfl
  have upper : c.isUpper = decide ('A'.val ≤ c.val ∧ c.val ≤ 'Z'.val) := rfl
  have lower : c.isLower = (decide ('a'.val ≤ c.val) && decide (c.val ≤ 'z'.val)) := rfl
  simp only [isPlainChar, Text.isAsciiAlphanumeric, letter, upper, lower, Char.isDigit,
    Char.le_def, Bool.or_eq_true, Bool.and_eq_true, decide_eq_true_eq, ge_iff_le, or_assoc]

theorem isPlain_iff {text : String} : isPlain text.toList = true ↔ Plain text := by
  rw [isPlain, Bool.and_eq_true, List.all_eq_true]
  constructor
  · rintro ⟨nonempty, allowed⟩
    refine ⟨by simpa using nonempty, ?_⟩
    intro c member
    exact isPlainChar_iff.mp (allowed c member)
  · intro plain
    refine ⟨by simpa using plain.nonempty, ?_⟩
    intro c member
    exact isPlainChar_iff.mpr (plain.allowed c member)

theorem Plain.backquote_not_mem {text : String} (plain : Plain text) : backquote ∉ text.toList := by
  intro member
  cases isPlainChar_iff.mpr (plain.allowed backquote member)

/-! ## Texts between backquotes -/

theorem toList_quote (inner : String) :
    (quote inner).toList = backquote :: (inner.toList ++ [backquote]) := by
  rw [quote, String.toList_ofList]

theorem quoted?_eq_some_iff {chars inner : List Char} :
    quoted? chars = some inner ↔ chars = backquote :: (inner ++ [backquote]) := by
  cases chars with
  | nil => simp [quoted?]
  | cons first rest =>
      simp only [quoted?, Bool.and_eq_true, decide_eq_true_eq, List.cons.injEq]
      constructor
      · intro found
        split at found
        · next quotes =>
            cases found
            obtain ⟨before, rfl⟩ := List.getLast?_eq_some_iff.mp quotes.2
            exact ⟨quotes.1, by simp⟩
        · cases found
      · rintro ⟨rfl, rfl⟩
        simp

theorem quoted?_toList_eq_some_iff {text : String} {inner : List Char} :
    quoted? text.toList = some inner ↔ text = quote (String.ofList inner) := by
  rw [quoted?_eq_some_iff, ← String.toList_inj, toList_quote, String.toList_ofList]

theorem quoted?_quote (inner : String) : quoted? (quote inner).toList = some inner.toList := by
  rw [toList_quote, quoted?_eq_some_iff]

theorem isValid_iff {text : String} : isValid text = true ↔ Names text := by
  unfold isValid isValidChars
  split
  · next inner inside =>
      have quoted := quoted?_toList_eq_some_iff.mp inside
      rw [Bool.and_eq_true, Bool.not_eq_true', Bool.not_eq_true', List.isEmpty_eq_false_iff,
        ← Bool.not_eq_true, List.contains_iff_mem]
      constructor
      · rintro ⟨nonempty, absent⟩
        refine .inr ⟨String.ofList inner, ?_, ?_, quoted⟩
        · simpa using nonempty
        · rwa [String.toList_ofList]
      · rintro (plain | ⟨other, nonempty, absent, same⟩)
        · have member : backquote ∈ text.toList := by simp [quoted, toList_quote]
          exact absurd member plain.backquote_not_mem
        · rw [same, quoted?_quote] at inside
          cases inside
          exact ⟨by simpa using nonempty, absent⟩
  · next outside =>
      rw [isPlain_iff]
      constructor
      · exact .inl
      · rintro (plain | ⟨inner, _, _, quoted⟩)
        · exact plain
        · rw [quoted, quoted?_quote] at outside
          cases outside

/-! ## Names without their backquotes -/

theorem unquoted_of_not_mem {text : String} (absent : backquote ∉ text.toList) :
    unquoted text = text := by
  rw [unquoted, Text.trimWhere_of_kept, String.ofList_toList]
  intro c member
  rw [decide_eq_false_iff_not]
  rintro rfl
  exact absent member

theorem unquoted_quote {inner : String} (absent : backquote ∉ inner.toList) :
    unquoted (quote inner) = inner := by
  rw [unquoted, toList_quote, Text.trimWhere_enclosed (by simp) (by simp)]
  exact unquoted_of_not_mem absent

theorem unquoted_spec {name : String} (named : Names name) :
    unquoted name ≠ "" ∧ backquote ∉ (unquoted name).toList := by
  rcases named with plain | ⟨inner, nonempty, absent, rfl⟩
  · rw [unquoted_of_not_mem plain.backquote_not_mem]
    exact ⟨plain.nonempty, plain.backquote_not_mem⟩
  · rw [unquoted_quote absent]
    exact ⟨nonempty, absent⟩

/-- Without its backquotes a name is plain when what it was made of is. -/
theorem plain_unquoted_iff {name : String} (named : Names name) :
    Plain (unquoted name) ↔ Plain name ∨ ∃ inner, Plain inner ∧ name = quote inner := by
  rcases named with plain | ⟨inner, _, absent, rfl⟩
  · rw [unquoted_of_not_mem plain.backquote_not_mem]
    exact ⟨.inl, fun _ => plain⟩
  · rw [unquoted_quote absent]
    constructor
    · intro plain
      exact .inr ⟨inner, plain, rfl⟩
    · rintro (plain | ⟨other, plain, same⟩)
      · have member : backquote ∈ (quote inner).toList := by simp [toList_quote]
        exact absurd member plain.backquote_not_mem
      · have stripped := congrArg unquoted same
        rw [unquoted_quote absent, unquoted_quote plain.backquote_not_mem] at stripped
        rwa [stripped]

end TablePartitioning.Identifier
