import TablePartitioning.Ddl.Fragments

/-!
# Reading literals back

After the apostrophe that opens a literal, an apostrophe that is written twice stands for one, and
the first that is not ends the literal.
-/

namespace TablePartitioning.Ddl.Literal

/-- What a literal holds after its first apostrophe, and what follows its last. -/
def body? : List Char → Option (List Char × List Char)
  | [] => none
  | first :: rest =>
      if first = '\'' then
        match rest with
        | [] => some ([], [])
        | second :: more =>
            if second = '\'' then (body? more).map fun (value, left) => ('\'' :: value, left)
            else some ([], second :: more)
      else (body? rest).map fun (value, left) => (first :: value, left)

/-- The text that a literal stands for, if it ends where the text ends. -/
def value? (text : String) : Option String :=
  match text.toList with
  | [] => none
  | first :: rest =>
      if first = '\'' then
        match body? rest with
        | some (value, []) => some (String.ofList value)
        | _ => none
      else none

theorem body?_doubled (chars rest : List Char) (apart : rest.head? ≠ some '\'') :
    body? (doubled chars ++ '\'' :: rest) = some (chars, rest) := by
  induction chars with
  | nil =>
      cases rest with
      | nil => simp [doubled, body?]
      | cons next more =>
          have different : next ≠ '\'' := by simpa using apart
          simp [doubled, body?, different]
  | cons first more inductionHypothesis =>
      by_cases quote : first = '\''
      · subst quote
        simp [doubled, body?, inductionHypothesis]
      · rw [doubled, if_neg quote, List.cons_append, body?.eq_def]
        simp only [if_neg quote, inductionHypothesis]
        rfl

/-- A literal is read back to its last character. -/
theorem value?_quote (text : String) : value? (quote text) = some text := by
  have read : body? (doubled text.toList ++ ['\'']) = some (text.toList, []) :=
    body?_doubled text.toList [] (by simp)
  simp [value?, quote, quoteChars, read]

end TablePartitioning.Ddl.Literal
