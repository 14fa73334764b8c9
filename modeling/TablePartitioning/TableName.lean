import TablePartitioning.Text.Basic

/-!
# Names of tables

A table name may carry the schema that it lives in.  Written as one text the two are joined by a
point, and a text is cut at its first point; a text that starts with a point has no schema.
-/

namespace TablePartitioning

/-- The name of a table, with its schema where one is given. -/
structure TableName where
  schema : Option String
  name : String
deriving DecidableEq

namespace TableName

/-- Read a name: what stands before the first point is the schema, unless it is empty. -/
def ofText (text : String) : TableName :=
  match Text.splitOnce? '.' text with
  | some (schema, name) => if schema = "" then ⟨none, text⟩ else ⟨some schema, name⟩
  | none => ⟨none, text⟩

/-- The name as statements cite it. -/
def text (table : TableName) : String :=
  match table.schema with
  | some schema => schema ++ "." ++ table.name
  | none => table.name

/-- The table of the same schema whose name goes on with an underscore and a label. -/
def child (table : TableName) (label : String) : TableName :=
  { table with name := table.name ++ "_" ++ label }

/-- A child lives in the schema of its parent. -/
@[simp]
theorem schema_child (table : TableName) (label : String) :
    (table.child label).schema = table.schema := rfl

/-- The text of a child goes on where the text of its parent ends. -/
theorem text_child (table : TableName) (label : String) :
    (table.child label).text = table.text ++ "_" ++ label := by
  cases table with
  | mk schema name => cases schema <;> simp [child, text, String.append_assoc]

/-- Children with different labels are different tables. -/
theorem child_injective (table : TableName) {first second : String}
    (same : table.child first = table.child second) : first = second := by
  have names := congrArg (fun child : TableName => child.name.toList) same
  simp only [child, String.toList_append, List.append_cancel_left_eq] at names
  exact String.toList_inj.mp names

end TableName

end TablePartitioning
