/-!
# Letters, blanks and separators

Words of the command languages are compared without the case of the ASCII letters.  Trimming
removes blanks from both ends of a text and nothing from its inside, and a text is cut at its first
separator or at all of them.
-/

namespace TablePartitioning.Text

/-! ## ASCII letters without their case -/

/-- The text with ASCII letters in lower case. -/
def lowerAscii (text : String) : String :=
  String.ofList (text.toList.map Char.toLower)

/-- Equal up to the case of ASCII letters. -/
def sameIgnoringCase (left right : String) : Bool :=
  left.toList.map Char.toLower == right.toList.map Char.toLower

/-- ASCII letters and digits. -/
def isAsciiAlphanumeric (c : Char) : Bool :=
  c.isAlpha || c.isDigit

/-- Equality up to case is equality of the texts in lower case. -/
theorem sameIgnoringCase_iff (left right : String) :
    sameIgnoringCase left right = true ↔ lowerAscii left = lowerAscii right := by
  simp [sameIgnoringCase, lowerAscii, String.ofList_inj]

/-! ## Blank characters and trimming

Blank is the Unicode property `White_Space`.  A text is blank when trimming leaves nothing.
-/

/-- The property `White_Space` of Unicode; zero-width characters do not have it. -/
def isBlank (c : Char) : Bool :=
  let code := c.toNat
  (0x09 ≤ code && code ≤ 0x0D) || code == 0x20 || code == 0x85 || code == 0xA0 ||
    code == 0x1680 || (0x2000 ≤ code && code ≤ 0x200A) || code == 0x2028 || code == 0x2029 ||
    code == 0x202F || code == 0x205F || code == 0x3000

/-- Remove the longest run of characters of a class from both ends. -/
def trimWhere (removed : Char → Bool) (chars : List Char) : List Char :=
  ((chars.dropWhile removed).reverse.dropWhile removed).reverse

/-- Remove blanks from both ends. -/
def trim (text : String) : String :=
  String.ofList (trimWhere isBlank text.toList)

/-- A text is blank when every character of it is. -/
def isBlankText (text : String) : Bool :=
  text.toList.all isBlank

@[simp]
theorem trimWhere_nil (removed : Char → Bool) : trimWhere removed [] = [] := rfl

@[simp]
theorem toList_trim (text : String) : (trim text).toList = trimWhere isBlank text.toList := by
  simp [trim]

/-- Dropping a class leaves nothing exactly when the class holds everywhere. -/
theorem dropWhile_eq_nil (removed : Char → Bool) (chars : List Char) :
    chars.dropWhile removed = [] ↔ ∀ c ∈ chars, removed c = true := by
  induction chars with
  | nil => simp
  | cons c rest inductionHypothesis =>
      by_cases holds : removed c = true
      · simp [holds, inductionHypothesis]
      · simp [holds]

/-- What dropping a class leaves starts with a character that is not of it. -/
theorem head?_dropWhile {removed : Char → Bool} {chars : List Char} {c : Char}
    (head : (chars.dropWhile removed).head? = some c) : removed c = false := by
  have kept := List.head?_dropWhile_not removed chars
  rw [head] at kept
  exact kept

/-- Trimming leaves nothing exactly when the class holds everywhere. -/
theorem trimWhere_eq_nil_iff (removed : Char → Bool) (chars : List Char) :
    trimWhere removed chars = [] ↔ ∀ c ∈ chars, removed c = true := by
  rw [trimWhere, List.reverse_eq_nil_iff, dropWhile_eq_nil]
  constructor
  · intro inside
    refine (dropWhile_eq_nil removed chars).1 ?_
    cases remaining : chars.dropWhile removed with
    | nil => rfl
    | cons c rest =>
        have kept : removed c = false := head?_dropWhile (by rw [remaining]; rfl)
        rw [inside c (by simp [remaining])] at kept
        cases kept
  · intro all c member
    exact all c (List.dropWhile_subset _ (List.mem_reverse.1 member))

/-- A text is blank exactly when trimming leaves nothing of it. -/
theorem isBlankText_iff_trim (text : String) :
    isBlankText text = true ↔ trim text = "" := by
  rw [← String.toList_eq_nil_iff, toList_trim, trimWhere_eq_nil_iff, isBlankText, List.all_eq_true]

/-! ## Cutting a text at a separator

`splitOnce?` cuts at the first separator; `pieces` cuts at every one, so that a text with `n`
separators has `n + 1` pieces, the empty ones included.
-/

/-- The characters before and after the first separator, if there is one. -/
def splitCharsOnce? (separator : Char) : List Char → Option (List Char × List Char)
  | [] => none
  | c :: rest =>
      if c = separator then some ([], rest)
      else (splitCharsOnce? separator rest).map fun (before, after) => (c :: before, after)

/-- The texts before and after the first separator, if there is one. -/
def splitOnce? (separator : Char) (text : String) : Option (String × String) :=
  (splitCharsOnce? separator text.toList).map fun (before, after) =>
    (String.ofList before, String.ofList after)

/-- The texts between the separators. -/
def pieces (separator : Char) (text : String) : List String :=
  (text.toList.splitOn separator).map String.ofList

/-- Cutting loses only the separator, and the part before it has none. -/
theorem splitCharsOnce?_eq_some_iff
    (separator : Char) (chars before after : List Char) :
    splitCharsOnce? separator chars = some (before, after) ↔
      separator ∉ before ∧ chars = before ++ separator :: after := by
  induction chars generalizing before with
  | nil => simp [splitCharsOnce?]
  | cons c rest inductionHypothesis =>
      by_cases same : c = separator
      · subst same
        cases before with
        | nil => simp [splitCharsOnce?, eq_comm]
        | cons b before =>
            simp only [splitCharsOnce?, if_true, Option.some.injEq, Prod.mk.injEq, List.mem_cons,
              List.cons_append, List.cons.injEq, not_or]
            constructor
            · rintro ⟨impossible, _⟩
              cases impossible
            · rintro ⟨⟨differs, _⟩, equal, _⟩
              exact absurd equal differs
      · cases before with
        | nil =>
            simp only [splitCharsOnce?, same, if_false, Option.map_eq_some_iff, Prod.mk.injEq,
              List.nil_append, List.cons.injEq, false_and, and_false]
            constructor
            · rintro ⟨_, _, impossible, _⟩
              cases impossible
            · rintro ⟨_, ⟨⟩⟩
        | cons b before =>
            simp only [splitCharsOnce?, same, if_false, Option.map_eq_some_iff, Prod.exists,
              Prod.mk.injEq, List.cons.injEq, List.mem_cons, List.cons_append, not_or]
            constructor
            · rintro ⟨before', after', found, ⟨rfl, rfl⟩, rfl⟩
              obtain ⟨absent, equal⟩ := (inductionHypothesis _).1 found
              exact ⟨⟨fun equalSeparator => same equalSeparator.symm, absent⟩, rfl, equal⟩
            · rintro ⟨⟨_, absent⟩, rfl, equal⟩
              exact ⟨before, after, (inductionHypothesis _).2 ⟨absent, equal⟩, ⟨rfl, rfl⟩, rfl⟩

/-- There is nothing to cut exactly when the separator does not occur. -/
theorem splitCharsOnce?_eq_none_iff (separator : Char) (chars : List Char) :
    splitCharsOnce? separator chars = none ↔ separator ∉ chars := by
  induction chars with
  | nil => simp [splitCharsOnce?]
  | cons c rest inductionHypothesis =>
      by_cases same : c = separator
      · simp [splitCharsOnce?, same]
      · simp [splitCharsOnce?, same, inductionHypothesis, Ne.symm same]

/-- Cutting a text loses only the separator, and the text before it has none. -/
theorem splitOnce?_eq_some_iff (separator : Char) (text before after : String) :
    splitOnce? separator text = some (before, after) ↔
      separator ∉ before.toList ∧ text.toList = before.toList ++ separator :: after.toList := by
  rw [← splitCharsOnce?_eq_some_iff, splitOnce?, Option.map_eq_some_iff]
  constructor
  · rintro ⟨⟨beforeChars, afterChars⟩, cut, same⟩
    cases same
    rwa [String.toList_ofList, String.toList_ofList]
  · intro cut
    exact ⟨(before.toList, after.toList), cut, by simp only [String.ofList_toList]⟩

/-- There is nothing to cut in a text exactly when the separator does not occur. -/
theorem splitOnce?_eq_none_iff (separator : Char) (text : String) :
    splitOnce? separator text = none ↔ separator ∉ text.toList := by
  rw [splitOnce?, Option.map_eq_none_iff, splitCharsOnce?_eq_none_iff]

end TablePartitioning.Text
