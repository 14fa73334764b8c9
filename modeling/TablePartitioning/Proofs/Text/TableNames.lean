import TablePartitioning.TableName

/-!
# Names of tables and their texts

Nothing is lost when a text is read as the name of a table, and a name is known by its text and its
schema together.  The schema of a text is what stands before its first point, if that is anything
at all; a name is therefore read back from its text exactly when its schema is found there.
-/

namespace TablePartitioning.TableName

variable {table other : TableName} {text schema : String}

/-- A name that its text tells: its schema is not empty and has no point, and where it has none,
the name has no point unless it starts with one. -/
def Told (table : TableName) : Prop :=
  match table.schema with
  | some schema => schema ≠ "" ∧ '.' ∉ schema.toList
  | none => '.' ∉ table.name.toList ∨ table.name.toList.head? = some '.'

theorem text_of_schema (given : table.schema = some schema) :
    table.text.toList = schema.toList ++ '.' :: table.name.toList := by
  simp [TableName.text, given, String.toList_append]

theorem text_of_unqualified (ungiven : table.schema = none) : table.text = table.name := by
  rw [TableName.text, ungiven]

/-- Two names with one text and one schema are the same. -/
theorem eq_of_text_eq (sameText : table.text = other.text)
    (sameSchema : table.schema = other.schema) : table = other := by
  have sameName : table.name = other.name := by
    cases given : other.schema with
    | none =>
        rw [given] at sameSchema
        rwa [text_of_unqualified sameSchema, text_of_unqualified given] at sameText
    | some schema =>
        rw [given] at sameSchema
        have chars := congrArg String.toList sameText
        rw [text_of_schema sameSchema, text_of_schema given, List.append_cancel_left_eq,
          List.cons.injEq] at chars
        exact String.toList_inj.mp chars.2
  cases table
  cases other
  rw [mk.injEq]
  exact ⟨sameSchema, sameName⟩

/-! ## Reading a text -/

theorem text_ofText (text : String) : (ofText text).text = text := by
  unfold ofText
  split
  · next schema name cut =>
      obtain ⟨_, whole⟩ := (Text.splitOnce?_eq_some_iff _ _ _ _).mp cut
      split
      · rfl
      · rw [← String.toList_inj, whole]
        exact text_of_schema rfl
  · rfl

theorem schema_ofText_eq_some_iff :
    (ofText text).schema = some schema ↔
      schema ≠ "" ∧ '.' ∉ schema.toList ∧
        ∃ name : String, text.toList = schema.toList ++ '.' :: name.toList := by
  have cut_iff (name : String) := Text.splitOnce?_eq_some_iff '.' text schema name
  simp only [← exists_and_left, ← cut_iff]
  unfold ofText
  split
  · next found name cut =>
      rw [cut]
      split
      · next empty => simp [empty, eq_comm]
      · next filled =>
          constructor
          · rintro ⟨⟩
            exact ⟨name, filled, rfl⟩
          · rintro ⟨_, _, ⟨⟩⟩
            rfl
  · next uncut => simp [uncut]

theorem schema_ofText_eq_none_iff :
    (ofText text).schema = none ↔ '.' ∉ text.toList ∨ text.toList.head? = some '.' := by
  unfold ofText
  split
  · next schema name cut =>
      obtain ⟨apart, whole⟩ := (Text.splitOnce?_eq_some_iff _ _ _ _).mp cut
      have divided : '.' ∈ text.toList := by simp [whole]
      split
      · next empty => simp [whole, empty]
      · next filled =>
          have schemaFirst : text.toList.head? ≠ some '.' := by
            intro point
            rw [whole, List.head?_append, Option.or_of_isSome (by simpa using filled)] at point
            exact apart (List.mem_of_head? point)
          simp [divided, schemaFirst]
  · next uncut =>
      have undivided := (Text.splitOnce?_eq_none_iff _ _).mp uncut
      simp [undivided]

/-! ## Reading the text of a name -/

theorem ofText_text_iff_schema :
    ofText table.text = table ↔ (ofText table.text).schema = table.schema := by
  constructor
  · exact congrArg TableName.schema
  · exact eq_of_text_eq (text_ofText table.text)

theorem schema_ofText_text_iff : (ofText table.text).schema = table.schema ↔ table.Told := by
  unfold Told
  split
  · next schema given =>
      rw [given, schema_ofText_eq_some_iff]
      have started : ∃ name : String, table.text.toList = schema.toList ++ '.' :: name.toList :=
        ⟨table.name, text_of_schema given⟩
      rw [and_iff_left started]
  · next ungiven => rw [ungiven, schema_ofText_eq_none_iff, text_of_unqualified ungiven]

/-- A text stays as it is when it is read as a name, and the text of a name is read back as that
name for those alone that their texts tell. -/
theorem names_readBack :
    (∀ text, (ofText text).text = text ∧
      ∀ label, ((ofText text).child label).text = text ++ "_" ++ label ∧
        ((ofText text).child label).schema = (ofText text).schema) ∧
    ∀ table : TableName, ofText table.text = table ↔ table.Told := by
  constructor
  · intro text
    refine ⟨text_ofText text, fun label => ⟨?_, schema_child _ label⟩⟩
    rw [text_child, text_ofText]
  · intro table
    rw [ofText_text_iff_schema, schema_ofText_text_iff]

example : ofText "app.events.2021" = ⟨some "app", "events.2021"⟩ ∧
    ofText ".events" = ⟨none, ".events"⟩ := by decide

end TablePartitioning.TableName
