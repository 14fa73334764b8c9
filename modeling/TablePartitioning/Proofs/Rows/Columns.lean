import Mathlib.Data.List.Forall2
import TablePartitioning.CommandLine.Printing
import TablePartitioning.Proofs.Decoding.Required
import TablePartitioning.Proofs.Decoding.Strict
import TablePartitioning.Proofs.Json.Reading
import TablePartitioning.Proofs.Text.NeatTexts

/-!
# Rows by their columns

A row has columns of three types, each of which is required or may be left empty.  A record whose
fields are such columns decodes exactly from the objects that the columns admit, and each column of
it, when it is written, is what it was read from.  That makes every row readable that is written.
-/

namespace TablePartitioning

/-- What a column holds. -/
inductive ColumnType where
  | text
  | unsigned
  | signed

/-- A text, or an integer of 64 bits with or without sign. -/
def ColumnType.Holds : ColumnType → Json → Prop
  | .text, value => ∃ text, value = .string text
  | .unsigned, value => ∃ number : Nat, value = .integer number ∧ number < Word.count 64
  | .signed, value => ∃ number, value = .integer number ∧
      -Word.signedBound 64 ≤ number ∧ number < Word.signedBound 64

/-- A column of a row. -/
structure Column where
  name : String
  type : ColumnType
  required : Bool

namespace Column

/-- What a row may have in a column: a value of its type or, if it is not required, null or
nothing. -/
def Admits (column : Column) : Option Json → Prop
  | some value => column.type.Holds value ∨ value = .null ∧ column.required = false
  | none => column.required = false

/-- What a written row has in a column. -/
def cell (column : Column) (row : Json) : Json :=
  (row.field? column.name).getD .null

/-- A field is a column: it has its name, and it accepts what the column admits. -/
structure IsField {Row : Type} (column : Column) (field : RecordField Json Row) : Prop where
  names : field.names = [column.name]
  required : field.required = column.required
  accepts : ∀ value, field.Accepts value ↔ column.Admits (some value)

end Column

open Json in
/-- A record that is written in columns and read from them. -/
structure RecordShape.Tabular {Row : Type} (shape : RecordShape Json Row) (columns : List Column)
    (write : Row → Json) : Prop where
  lenient : shape.relaxed.Lenient
  distinct : (columns.map Column.name).Nodup
  fields : List.Forall₂ Column.IsField columns shape.fields
  /-- A column is written as it was read. -/
  parts : ∀ column ∈ columns,
    shape.relaxed.Part [column.name] Except.ok fun row => column.cell (write row)
  empty : ∀ column ∈ columns, column.required = false →
    column.cell (write shape.initial) = .null
  written : ∀ row, ∃ cells, write row = .object cells ∧
    cells.map Prod.fst = columns.map Column.name
  determined : ∀ row other,
    (∀ column ∈ columns, column.cell (write row) = column.cell (write other)) → row = other

open Json in
/-- Rows are printed on lines of their own, and read from objects by their columns. -/
structure PrintsRows {Row : Type} (columns : List Column) (Fits : Row → Prop) (write : Row → Json)
    (read : Json → Except DecodeError Row) (print : List Row → String) : Prop where
  /-- From each line the row is read again that it was printed for. -/
  lines : ∀ rows, (∀ row ∈ rows, Fits row) →
    ∃ texts, Text.pieces '\n' (print rows) = texts ++ [""] ∧
      List.Forall₂ (fun text row => ∃ json, parse? text = some json ∧ read json = .ok row)
        texts rows
  /-- Fields that are no columns do not count. -/
  foreign : ∀ fields others,
    (fields.filter fun field => field.1 ∈ columns.map Column.name) =
        (others.filter fun field => field.1 ∈ columns.map Column.name) →
      read (.object fields) = read (.object others)
  admitted : ∀ fields, (fields.map Prod.fst).Nodup →
    ((∃ row, read (.object fields) = .ok row) ↔
      ∀ column ∈ columns, column.Admits (fields.lookup column.name))
  /-- What is read is what is given in the columns. -/
  taken : ∀ fields row, (fields.map Prod.fst).Nodup → read (.object fields) = .ok row →
    Fits row ∧ ∀ column ∈ columns, column.cell (write row) = (fields.lookup column.name).getD .null

variable {Row : Type} {shape : RecordShape Json Row} {columns : List Column} {write : Row → Json}
  {column : Column} {field : RecordField Json Row} {fields others : List (String × Json)}
  {row : Row} {value : Json} {depth : Nat}

/-! ## Columns and fields -/

theorem exists_entry_iff {name : String} :
    (∃ entry ∈ fields, entry.1 ∈ [name]) ↔ (fields.lookup name).isSome = true := by
  cases given : fields.lookup name with
  | none =>
      simp only [Option.isSome_none, Bool.false_eq_true, iff_false, not_exists, not_and,
        List.mem_singleton]
      intro entry member same
      have different := List.lookup_eq_none_iff.mp given entry member
      simp [same] at different
  | some value =>
      have present := RecordShape.mem_of_lookup given
      simp only [Option.isSome_some, iff_true]
      exact ⟨(name, value), present, List.mem_singleton_self name⟩

theorem forall_fields_iff {P : RecordField Json Row → Prop} {Q : Column → Prop}
    {columnFields : List (RecordField Json Row)}
    (related : List.Forall₂ Column.IsField columns columnFields)
    (same : ∀ column field, column.IsField field → (P field ↔ Q column)) :
    (∀ field ∈ columnFields, P field) ↔ ∀ column ∈ columns, Q column := by
  induction related with
  | nil => simp
  | cons isField _ inductionHypothesis =>
      rw [List.forall_mem_cons, List.forall_mem_cons, same _ _ isField, inductionHypothesis]

/-- What is given for a field is accepted, and it is given if it is required. -/
theorem Column.IsField.admits_iff (isField : column.IsField field) :
    ((∀ name ∈ field.names, ∀ value, fields.lookup name = some value → field.Accepts value) ∧
        (field.required = true → ∃ entry ∈ fields, entry.1 ∈ field.names)) ↔
      column.Admits (fields.lookup column.name) := by
  rw [isField.names, isField.required, exists_entry_iff]
  simp only [List.mem_singleton, forall_eq]
  cases given : fields.lookup column.name with
  | none => simp [Column.Admits]
  | some value => simp [isField.accepts]

namespace RecordShape.Tabular

theorem fits_iff (tabular : shape.Tabular columns write) :
    (shape.relaxed.Fits (List.lookup · fields) ∧ ∀ field ∈ shape.fields, field.required = true →
        ∃ entry ∈ fields, entry.1 ∈ field.names) ↔
      ∀ column ∈ columns, column.Admits (fields.lookup column.name) := by
  rw [← forall_fields_iff tabular.fields fun column field isField => isField.admits_iff]
  have single : ∀ field ∈ shape.fields, ∃ name, field.names = [name] := by
    rw [forall_fields_iff tabular.fields fun column field isField =>
      iff_true_intro ⟨column.name, isField.names⟩]
    exact fun _ _ => trivial
  constructor
  · rintro ⟨fits, complete⟩ field member
    exact ⟨fits.accepted field.unrequired (List.mem_map_of_mem member), complete field member⟩
  · intro all
    refine ⟨⟨?_, ?_⟩, fun field member => (all field member).2⟩
    · rw [relaxed, List.forall_mem_map]
      exact fun field member => (all field member).1
    · rw [SpelledAlike, relaxed, List.forall_mem_map]
      intro field member first firstNamed second secondNamed _ _
      obtain ⟨name, names⟩ := single field member
      rw [names_unrequired, names, List.mem_singleton] at firstNamed secondNamed
      rw [firstNamed, secondNamed]

/-- An object decodes exactly when its fields are admitted by the columns. -/
theorem decodes_iff (tabular : shape.Tabular columns write)
    (distinct : (fields.map Prod.fst).Nodup) :
    (∃ row, shape.ofEntries fields = .ok row) ↔
      ∀ column ∈ columns, column.Admits (fields.lookup column.name) := by
  rw [← tabular.fits_iff, ← tabular.lenient.ofEntries_ok_iff distinct]
  simp only [ofEntries_eq_ok_iff_relaxed tabular.lenient, exists_and_right]

theorem complete_iff (tabular : shape.Tabular columns write) :
    (∀ field ∈ shape.fields, field.required = true → ∃ entry ∈ fields, entry.1 ∈ field.names) ↔
      ∀ column ∈ columns, column.required = true → (fields.lookup column.name).isSome = true := by
  apply forall_fields_iff tabular.fields
  intro column field isField
  rw [isField.names, isField.required, exists_entry_iff]

/-- Each column of a row that is read is written as it was given. -/
theorem cell_of_decode (tabular : shape.Tabular columns write)
    (decodes : shape.ofEntries fields = .ok row) (member : column ∈ columns) :
    column.cell (write row) = (fields.lookup column.name).getD .null := by
  obtain ⟨relaxedDecodes, complete⟩ := (ofEntries_eq_ok_iff_relaxed tabular.lenient).mp decodes
  have takes := (tabular.parts column member).ofEntries tabular.lenient relaxedDecodes
  rw [List.findSome?_singleton] at takes
  cases given : fields.lookup column.name with
  | some value =>
      rw [given] at takes
      exact (Except.ok.inj takes).symm
  | none =>
      rw [given] at takes
      have optional : column.required = false := by
        rw [← Bool.not_eq_true]
        intro required
        have present := tabular.complete_iff.mp complete column member required
        rw [given] at present
        cases present
      exact takes.trans (tabular.empty column member optional)

/-- A row is read from any object that has its columns. -/
theorem decode_of_cells (tabular : shape.Tabular columns write)
    (distinct : (fields.map Prod.fst).Nodup)
    (same : ∀ column ∈ columns, fields.lookup column.name = (write row).field? column.name)
    (admitted : ∀ column ∈ columns, column.Admits ((write row).field? column.name)) :
    shape.ofEntries fields = .ok row := by
  -- some row decodes, and it has the columns that determine this one
  obtain ⟨other, decodes⟩ := (tabular.decodes_iff distinct).mpr fun column member =>
    (same column member).symm ▸ admitted column member
  have equal : other = row := by
    apply tabular.determined
    intro column member
    rw [tabular.cell_of_decode decodes member, same column member, Column.cell]
  rw [decodes, equal]

end RecordShape.Tabular

/-! ## Rows that are printed -/

open Json

theorem exact_of_admits (admitted : column.Admits (some value)) :
    Exact depth value ∧ value.ordered = value := by
  rcases admitted with holds | ⟨rfl, _⟩
  · cases type : column.type with
    | text =>
        rw [type] at holds
        obtain ⟨text, rfl⟩ := holds
        exact ⟨.string text, rfl⟩
    | unsigned =>
        rw [type] at holds
        obtain ⟨number, rfl, below⟩ := holds
        exact ⟨.integer (isWideInteger_of_unsigned below), rfl⟩
    | signed =>
        rw [type] at holds
        obtain ⟨number, rfl, lowest, below⟩ := holds
        exact ⟨.integer (isWideInteger_of_signed lowest below), rfl⟩
  · exact ⟨.null, rfl⟩

namespace RecordShape.Tabular

/-- A row whose columns are admitted is written exactly. -/
theorem exact_write (tabular : shape.Tabular columns write)
    (admitted : ∀ column ∈ columns, column.Admits ((write row).field? column.name)) :
    Exact maxDepth (write row) ∧ ∃ cells, write row = .object cells ∧ (cells.map Prod.fst).Nodup ∧
      (write row).ordered = ofFields cells := by
  obtain ⟨cells, written, names⟩ := tabular.written row
  have distinct : (cells.map Prod.fst).Nodup := names ▸ tabular.distinct
  have each : ∀ cell ∈ cells, Exact (maxDepth - 1) cell.2 ∧ cell.2.ordered = cell.2 := by
    intro cell member
    have named : cell.1 ∈ columns.map Column.name := names ▸ List.mem_map_of_mem member
    obtain ⟨column, columnMember, name⟩ := List.mem_map.mp named
    have own := admitted column columnMember
    have found : cells.lookup cell.1 = some cell.2 := RecordShape.lookup_of_mem distinct member
    rw [written, name, field?, found] at own
    exact exact_of_admits own
  have same : orderedFields cells = cells := by
    rw [orderedFields_eq_map]
    refine (List.map_congr_left fun cell member => ?_).trans (List.map_id cells)
    rw [(each cell member).2]
    rfl
  refine ⟨?_, cells, written, distinct, ?_⟩
  · rw [written]
    apply Exact.object
    exact fun cell member => (each cell member).1
  · rw [written, ordered, same]

/-- A row is read from the text that is written for it. -/
theorem decode_text (tabular : shape.Tabular columns write)
    (admitted : ∀ column ∈ columns, column.Admits ((write row).field? column.name)) :
    ∃ json, parse? (write row).text = some json ∧ shape.decode strict json = .ok row := by
  obtain ⟨exact, cells, written, distinct, inOrder⟩ := tabular.exact_write admitted
  obtain ⟨sorted, isObject, sortedNames, lookups⟩ := exists_ofFields distinct
  refine ⟨.object sorted, ?_, ?_⟩
  · rw [exact.parse?_text, inOrder, isObject]
  · refine tabular.decode_of_cells sortedNames.distinct (fun column _ => ?_) admitted
    rw [lookups, written, field?]

theorem field?_write (tabular : shape.Tabular columns write) (member : column ∈ columns) :
    (write row).field? column.name = some (column.cell (write row)) := by
  obtain ⟨cells, written, names⟩ := tabular.written row
  have named : column.name ∈ cells.map Prod.fst := names ▸ List.mem_map_of_mem member
  obtain ⟨cell, cellMember, name⟩ := List.mem_map.mp named
  have found : cells.lookup cell.1 = some cell.2 :=
    RecordShape.lookup_of_mem (names ▸ tabular.distinct) cellMember
  rw [Column.cell, written, ← name, field?, found, Option.getD_some]

theorem admits_of_decode (tabular : shape.Tabular columns write)
    (distinct : (fields.map Prod.fst).Nodup) (decodes : shape.ofEntries fields = .ok row)
    (member : column ∈ columns) : column.Admits ((write row).field? column.name) := by
  have admitted := (tabular.decodes_iff distinct).mp ⟨row, decodes⟩ column member
  rw [tabular.field?_write member, tabular.cell_of_decode decodes member]
  cases given : fields.lookup column.name with
  | none => exact .inr ⟨rfl, by rwa [given] at admitted⟩
  | some value => rwa [given] at admitted

theorem declares_eq (tabular : shape.Tabular columns write) (name : String) :
    shape.declares name = decide (name ∈ columns.map Column.name) := by
  have apart := forall_fields_iff (P := fun field => ¬ field.answersTo name = true)
    (Q := fun column => ¬ column.name = name) tabular.fields fun column field isField => by
      rw [RecordField.answersTo_iff, isField.names, List.mem_singleton, eq_comm]
  rw [Bool.eq_iff_iff, decide_eq_true_iff, declares, List.any_eq_true, List.mem_map,
    ← not_iff_not, not_exists, not_exists]
  simpa only [not_and] using apart

end RecordShape.Tabular

theorem lines_eq_intercalate (texts : List String) :
    lines texts = "\n".intercalate (texts ++ [""]) := by
  rw [← String.toList_inj, String.toList_intercalate]
  induction texts with
  | nil => rfl
  | cons text rest inductionHypothesis =>
      obtain ⟨first, others, split⟩ : ∃ first others, rest ++ [""] = first :: others := by
        cases rest with
        | nil => exact ⟨_, _, rfl⟩
        | cons first others => exact ⟨_, _, rfl⟩
      rw [split] at inductionHypothesis
      rw [List.cons_append, split, List.map_cons, List.map_cons, List.intercalate_cons_cons,
        ← List.map_cons, ← inductionHypothesis]
      simp [lines, String.toList_append]

/-- Texts without line breaks are the lines that are printed of them. -/
theorem pieces_lines {texts : List String} (unbroken : ∀ text ∈ texts, '\n' ∉ text.toList) :
    Text.pieces '\n' (lines texts) = texts ++ [""] := by
  have newline : "\n" = String.singleton '\n' := by decide
  rw [lines_eq_intercalate, newline]
  apply Text.pieces_intercalate (by simp)
  intro text member
  rcases List.mem_append.mp member with own | last
  · exact unbroken text own
  · simp [List.mem_singleton.mp last]

/-- Rows whose columns are admitted are printed and read. -/
theorem RecordShape.Tabular.printsRows (tabular : shape.Tabular columns write) {Fits : Row → Prop}
    (fits_iff : ∀ row, Fits row ↔
      ∀ column ∈ columns, column.Admits ((write row).field? column.name)) :
    PrintsRows columns Fits write (shape.decode strict)
      fun rows => TablePartitioning.lines (rows.map fun row => (write row).text) where
  lines rows fitting := by
    refine ⟨rows.map fun row => (write row).text, pieces_lines ?_, ?_⟩
    · rw [List.forall_mem_map]
      intro row member
      exact (tabular.exact_write ((fits_iff row).mp (fitting row member))).1.newline_not_mem
    · rw [List.forall₂_map_left_iff, List.forall₂_same]
      exact fun row member => tabular.decode_text ((fits_iff row).mp (fitting row member))
  foreign fields others same := by
    have decodes (fields : List (String × Json)) : shape.decode strict (.object fields) =
        shape.ofEntries (fields.filter fun field => field.1 ∈ columns.map Column.name) := by
      simp only [← tabular.declares_eq, ofEntries_filter]
      rfl
    rw [decodes, decodes, same]
  admitted fields distinct := tabular.decodes_iff distinct
  taken fields row distinct decodes :=
    ⟨(fits_iff row).mpr fun _ member => tabular.admits_of_decode distinct decodes member,
      fun _ member => tabular.cell_of_decode decodes member⟩

end TablePartitioning
