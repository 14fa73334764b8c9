import TablePartitioning.Proofs.Rows.Columns

/-!
# Rows that are printed and read

The rows that describe partitions and those that report on maintenance are printed one on a line,
whatever is in their texts, and read back from there.  An object is read as a row exactly when its
columns have the types of the row; other fields do not count.
-/

namespace TablePartitioning

open Json RecordField RecordShape

/-! ## Fields that are columns -/

variable {Row α : Type} {column : Column} {field : RecordField Json Row}
  {read : Json → Except DecodeError α} {write : α → Json} {Fits : α → Prop}
  {set : Row → α → Row}

/-- A field that stores what is read is a column that admits what can be read. -/
theorem Column.isField_of_inverts (row : Row) (inverts : Inverts read write Fits)
    (named : field.names = [column.name]) (required : field.required = column.required)
    (stores : ∀ value row, field.store value row = (read value).map (set row))
    (admits : ∀ value, column.Admits (some value) ↔ ∃ taken, value = write taken ∧ Fits taken) :
    column.IsField field where
  names := named
  required := required
  accepts value := by
    rw [accepts_iff_of_store row stores, admits]
    exact exists_congr fun taken => inverts value taken

/-- A column that is not required admits null besides the values of its type. -/
theorem Column.admits_optional_iff {value : Json} (optional : column.required = false)
    (holds : column.type.Holds value ↔ ∃ taken, value = write taken ∧ Fits taken) :
    column.Admits (some value) ↔
      ∃ taken?, value = ofOption write taken? ∧ ∀ taken ∈ taken?, Fits taken := by
  rw [Column.Admits, holds, and_iff_left optional]
  constructor
  · rintro (⟨taken, rfl, fits⟩ | rfl)
    · exact ⟨some taken, rfl, by simpa using fits⟩
    · exact ⟨none, rfl, by simp⟩
  · rintro ⟨taken?, rfl, fits⟩
    cases taken? with
    | none => exact .inr rfl
    | some taken => exact .inl ⟨taken, rfl, fits taken rfl⟩

/-- A column that is required admits the values of its type. -/
theorem Column.admits_required_iff {value : Json} (required : column.required = true) :
    column.Admits (some value) ↔ column.type.Holds value := by
  rw [Column.Admits, required]
  simp

theorem ColumnType.text_holds_iff {value : Json} :
    ColumnType.text.Holds value ↔ ∃ text, value = .string text ∧ True := by
  simp only [and_true, Holds]

theorem ofOption_injective (filled : ∀ taken, write taken ≠ .null)
    (injective : Function.Injective write) : Function.Injective (ofOption write) := by
  intro first second same
  cases first with
  | none =>
      cases second with
      | none => rfl
      | some taken => exact absurd same.symm (filled taken)
  | some taken =>
      cases second with
      | none => exact absurd same (filled taken)
      | some other => rw [injective same]

namespace PartitionInfo

/-- The columns of a row. -/
def columns : List Column := [
  ⟨"PARTITION_NAME", .text, false⟩,
  ⟨"SUBPARTITION_NAME", .text, false⟩,
  ⟨"PARTITION_ORDINAL_POSITION", .unsigned, false⟩,
  ⟨"TABLE_ROWS", .signed, false⟩,
  ⟨"PARTITION_METHOD", .text, false⟩]

/-- The numbers of a row fit 64 bits. -/
structure InRange (info : PartitionInfo) : Prop where
  position : ∀ position ∈ info.position, position < Word.count 64
  rowEstimate : ∀ estimate ∈ info.rowEstimate,
    -Word.signedBound 64 ≤ estimate ∧ estimate < Word.signedBound 64

theorem text_inverts :
    Inverts (strict.optional asText) (ofOption .string) fun taken? => ∀ _ ∈ taken?, True :=
  optional_inverts asText_inverts fun _ => Json.noConfusion

theorem position_inverts :
    Inverts (strict.optional (asNatural (Word.count 64) "u64"))
      (ofOption fun position : Nat => .integer position)
      fun position? => ∀ position ∈ position?, position < Word.count 64 :=
  optional_inverts (asNatural_inverts _ _) fun _ => Json.noConfusion

theorem rowEstimate_inverts :
    Inverts (strict.optional (asInteger (-Word.signedBound 64) (Word.signedBound 64) "i64"))
      (ofOption .integer)
      fun estimate? => ∀ estimate ∈ estimate?,
        -Word.signedBound 64 ≤ estimate ∧ estimate < Word.signedBound 64 :=
  optional_inverts (asInteger_inverts _ _ _) fun _ => Json.noConfusion

theorem position_injective :
    Function.Injective (ofOption fun position : Nat => Json.integer position) :=
  ofOption_injective (fun _ => Json.noConfusion) fun _ _ same =>
    Int.ofNat.inj (Json.integer.inj same)

theorem estimate_injective : Function.Injective (ofOption Json.integer) :=
  ofOption_injective (fun _ => Json.noConfusion) fun _ _ => Json.integer.inj

theorem columns_fields : List.Forall₂ Column.IsField columns shape.fields := by
  refine .cons ?_ (.cons ?_ (.cons ?_ (.cons ?_ (.cons ?_ .nil))))
  · exact Column.isField_of_inverts shape.initial text_inverts rfl rfl (fun _ _ => rfl) fun _ =>
      Column.admits_optional_iff rfl ColumnType.text_holds_iff
  · exact Column.isField_of_inverts shape.initial text_inverts rfl rfl (fun _ _ => rfl) fun _ =>
      Column.admits_optional_iff rfl ColumnType.text_holds_iff
  · exact Column.isField_of_inverts shape.initial position_inverts rfl rfl (fun _ _ => rfl)
      fun _ => Column.admits_optional_iff rfl Iff.rfl
  · exact Column.isField_of_inverts shape.initial rowEstimate_inverts rfl rfl (fun _ _ => rfl)
      fun _ => Column.admits_optional_iff rfl Iff.rfl
  · exact Column.isField_of_inverts shape.initial text_inverts rfl rfl (fun _ _ => rfl) fun _ =>
      Column.admits_optional_iff rfl ColumnType.text_holds_iff

theorem columns_parts : ∀ column ∈ columns,
    shape.relaxed.Part [column.name] Except.ok fun row => column.cell (toJson row) := by
  have text : ∀ (value : Json) (_ : PartitionInfo) (taken : Option String),
      strict.optional asText value = .ok taken → value = ofOption .string taken :=
    fun value _ taken reads => ((text_inverts value taken).mp reads).1
  have position : ∀ (value : Json) (_ : PartitionInfo) (taken : Option Nat),
      strict.optional (asNatural (Word.count 64) "u64") value = .ok taken →
        value = ofOption (fun position : Nat => .integer position) taken :=
    fun value _ taken reads => ((position_inverts value taken).mp reads).1
  have estimate : ∀ (value : Json) (_ : PartitionInfo) (taken : Option Int),
      strict.optional (asInteger (-Word.signedBound 64) (Word.signedBound 64) "i64") value =
        .ok taken → value = ofOption .integer taken :=
    fun value _ taken reads => ((rowEstimate_inverts value taken).mp reads).1
  simp only [columns, List.forall_mem_cons, List.not_mem_nil, false_implies, implies_true, and_true]
  refine ⟨?_, ?_, ?_, ?_, ?_⟩
  all_goals
    refine part_of_stores (by simp [shape, relaxed, unrequired, names]) ?_
    simpa [shape, relaxed, unrequired, names, forall_map_eq_ok, Column.cell, toJson, field?,
      List.lookup_cons]

theorem tabular : shape.Tabular columns toJson where
  lenient := by
    apply relaxed_lenient
    · simp [shape, names]
    · simp only [shape, List.forall_mem_cons, forall_map_eq_ok, Accepts]
      refine ⟨?_, ?_, ?_, ?_, ?_, by simp⟩
      all_goals exact fun _ _ _ reads _ => exists_map_eq_ok reads
  distinct := by decide
  fields := columns_fields
  parts := columns_parts
  empty := by
    simp only [columns, List.forall_mem_cons]
    exact ⟨fun _ => rfl, fun _ => rfl, fun _ => rfl, fun _ => rfl, fun _ => rfl, by simp⟩
  written info := ⟨_, rfl, rfl⟩
  determined info other same := by
    have text : Function.Injective (ofOption Json.string) :=
      ofOption_injective (fun _ => Json.noConfusion) fun _ _ => Json.string.inj
    simp only [columns, List.forall_mem_cons] at same
    obtain ⟨sameName, sameSubpartition, samePosition, sameEstimate, sameMethod, _⟩ := same
    cases info
    cases other
    rw [mk.injEq]
    exact ⟨text sameName, text sameSubpartition, position_injective samePosition,
      estimate_injective sameEstimate, text sameMethod⟩

/-- The numbers of a row fit exactly when all columns of it are admitted. -/
theorem inRange_iff (info : PartitionInfo) :
    info.InRange ↔ ∀ column ∈ columns, column.Admits (info.toJson.field? column.name) := by
  have text (name : String) (text? : Option String) :
      Column.Admits ⟨name, .text, false⟩ (some (ofOption .string text?)) :=
    (Column.admits_optional_iff rfl ColumnType.text_holds_iff).mpr ⟨_, rfl, fun _ _ => trivial⟩
  simp only [columns, List.forall_mem_cons]
  constructor
  · rintro ⟨position, rowEstimate⟩
    exact ⟨text _ _, text _ _, (Column.admits_optional_iff rfl Iff.rfl).mpr ⟨_, rfl, position⟩,
      (Column.admits_optional_iff rfl Iff.rfl).mpr ⟨_, rfl, rowEstimate⟩, text _ _, by simp⟩
  · rintro ⟨_, _, position, rowEstimate, _⟩
    obtain ⟨position?, samePosition, fits⟩ := (Column.admits_optional_iff rfl Iff.rfl).mp position
    obtain ⟨estimate?, sameEstimate, bounds⟩ :=
      (Column.admits_optional_iff rfl Iff.rfl).mp rowEstimate
    rw [← position_injective samePosition] at fits
    rw [← estimate_injective sameEstimate] at bounds
    exact ⟨fits, bounds⟩

end PartitionInfo

namespace MaintenanceReport

/-- The columns of a row. -/
def columns : List Column := [
  ⟨"Table", .text, true⟩,
  ⟨"Op", .text, true⟩,
  ⟨"Msg_type", .text, true⟩,
  ⟨"Msg_text", .text, true⟩]

theorem columns_fields : List.Forall₂ Column.IsField columns shape.fields := by
  refine .cons ?_ (.cons ?_ (.cons ?_ (.cons ?_ .nil)))
  all_goals
    refine Column.isField_of_inverts shape.initial asText_inverts rfl rfl (fun _ _ => rfl) ?_
    exact fun _ => (Column.admits_required_iff rfl).trans ColumnType.text_holds_iff

theorem columns_parts : ∀ column ∈ columns,
    shape.relaxed.Part [column.name] Except.ok fun row => column.cell (toJson row) := by
  have text : ∀ (value : Json) (_ : MaintenanceReport) (taken : String),
      asText value = .ok taken → value = .string taken :=
    fun value _ taken reads => ((asText_inverts value taken).mp reads).1
  simp only [columns, List.forall_mem_cons, List.not_mem_nil, false_implies, implies_true, and_true]
  refine ⟨?_, ?_, ?_, ?_⟩
  all_goals
    refine part_of_stores (by simp [shape, relaxed, unrequired, names]) ?_
    simpa [shape, relaxed, unrequired, names, forall_map_eq_ok, Column.cell, toJson, field?,
      List.lookup_cons]

theorem tabular : shape.Tabular columns toJson where
  lenient := by
    apply relaxed_lenient
    · simp [shape, names]
    · simp only [shape, List.forall_mem_cons, forall_map_eq_ok, Accepts]
      refine ⟨?_, ?_, ?_, ?_, by simp⟩
      all_goals exact fun _ _ _ reads _ => exists_map_eq_ok reads
  distinct := by decide
  fields := columns_fields
  parts := columns_parts
  empty := by simp [columns]
  written report := ⟨_, rfl, rfl⟩
  determined report other same := by
    simp only [columns, List.forall_mem_cons] at same
    obtain ⟨sameTable, sameOperation, sameType, sameText, _⟩ := same
    cases report
    cases other
    rw [mk.injEq]
    exact ⟨Json.string.inj sameTable, Json.string.inj sameOperation, Json.string.inj sameType,
      Json.string.inj sameText⟩

theorem admits_column (report : MaintenanceReport) :
    ∀ column ∈ columns, column.Admits (report.toJson.field? column.name) := by
  simp only [columns, List.forall_mem_cons]
  exact ⟨.inl ⟨_, rfl⟩, .inl ⟨_, rfl⟩, .inl ⟨_, rfl⟩, .inl ⟨_, rfl⟩, by simp⟩

end MaintenanceReport

/-- Both kinds of rows are printed one on a line and read back, whatever else is remembered. -/
theorem rows_printed (cache : Cache) :
    PrintsRows PartitionInfo.columns PartitionInfo.InRange PartitionInfo.toJson PartitionInfo.ofJson
        (fun rows => (Answer.partitions rows).report cache) ∧
      PrintsRows MaintenanceReport.columns (fun _ => True) MaintenanceReport.toJson
        MaintenanceReport.ofJson fun rows => (Answer.reports rows).report cache :=
  ⟨PartitionInfo.tabular.printsRows PartitionInfo.inRange_iff,
    MaintenanceReport.tabular.printsRows fun report =>
      iff_of_true trivial report.admits_column⟩

end TablePartitioning
