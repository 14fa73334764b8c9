import Mathlib.Data.List.Nodup
import TablePartitioning.Proofs.Ddl.CalendarSubpartitions
import TablePartitioning.Proofs.Ddl.CalendarTiling
import TablePartitioning.Proofs.Ddl.DefinitionNames

/-!
# The tables that partitions are

Where partitions are tables of their own, each is named after the parent with a label behind it,
and lives in the schema of the parent.  Labels that differ therefore make tables that differ, and
none of them is the parent.  The labels of years, of months and of remainders differ by their
numerals; those of definitions differ where the names do without their backquotes, and the rules
for definitions keep them apart from `future`.  The remainders of a hash share out all its values.
-/

namespace TablePartitioning

namespace Ddl

/-- Whether a hash value belongs to a partition: the partition has its remainder. -/
def HeldValues.holdsHash (values : HeldValues) (value : Nat) : Bool :=
  match values with
  | .hash modulus remainder => value % modulus = remainder
  | _ => false

/-- The statement of a remainder. -/
def PartitionOf.remainderStatement (table : TableName) (modulus remainder : Nat) : PartitionOf :=
  ⟨table, "p" ++ remainder.repr, .hash modulus remainder⟩

/-- The values of a partition in full: a range, a list, or the remainder of a hash. -/
def HeldValues.Spelled (values : HeldValues) : Prop :=
  (∃ start finish, values = .range start finish ∧
    values.text = "FOR VALUES FROM (" ++ start ++ ") TO (" ++ finish ++ ")") ∨
  (∃ listed, values = .list listed ∧
    values.text = "FOR VALUES IN (" ++ ", ".intercalate listed ++ ")") ∨
  ∃ modulus remainder, values = .hash modulus remainder ∧
    values.text =
      "FOR VALUES WITH (MODULUS " ++ modulus.repr ++ ", REMAINDER " ++ remainder.repr ++ ")"

theorem HeldValues.spelled (values : HeldValues) : values.Spelled := by
  cases values with
  | range start finish => exact .inl ⟨start, finish, rfl, text_range start finish⟩
  | list listed => exact .inr (.inl ⟨listed, rfl, text_list listed⟩)
  | hash modulus remainder =>
      exact .inr (.inr ⟨modulus, remainder, rfl, text_hash modulus remainder⟩)

/-- Statements that create tables which are all different, beside a parent that is none of them. -/
structure ChildrenApart (table : TableName) (layout : Layout) (statements : List PartitionOf) :
    Prop where
  rendered : Strategy.render .partitionOf table layout = .ok (statements.map PartitionOf.text)
  created : ∀ statement ∈ statements,
    statement.text = "CREATE TABLE " ++ statement.child.text ++
      " PARTITION OF " ++ table.text ++ " " ++ statement.values.text
  spelled : ∀ statement ∈ statements, statement.values.Spelled
  /-- The tables differ in their texts, so that no server takes two of them for one. -/
  distinct : (statements.map fun statement => statement.child.text).Nodup
  schema : ∀ statement ∈ statements, statement.child.schema = table.schema
  apart : ∀ statement ∈ statements,
    statement.child ≠ table ∧ statement.child.text ≠ table.text

/-- Statements that share the values of a hash out by their remainders. -/
structure SharesRemainders (table : TableName) (modulus : Nat) (statements : List PartitionOf) :
    Prop where
  count : statements.length = modulus
  divided : ∀ statement ∈ statements,
    ∃ remainder < modulus, statement.values = .hash modulus remainder ∧
      statement.text =
        "CREATE TABLE " ++ table.text ++ "_p" ++ remainder.repr ++
          " PARTITION OF " ++ table.text ++
            " FOR VALUES WITH (MODULUS " ++ modulus.repr ++ ", REMAINDER " ++ remainder.repr ++
              ")"
  once : ∀ value : Nat,
    (statements.filter fun statement => statement.values.holdsHash value) =
      [PartitionOf.remainderStatement table modulus (value % modulus)]

end Ddl

/-- Layouts whose partitions are tables of their own; the names of definitions have to differ, also
without their backquotes. -/
def Layout.NamesApart : Layout → Prop
  | .range _ definitions _ => (definitions.map Ddl.PartitionOf.labelOf).Nodup
  | .list _ definitions => (definitions.map Ddl.PartitionOf.labelOf).Nodup
  | .hash _ _ => True
  | .key _ => False
  | .monthOfYear _ => True
  | .calendar _ _ => True
  | .parentTable _ _ _ _ => False

/-! ## Children and labels -/

namespace TableName

theorem text_child_injective (table : TableName) :
    Function.Injective fun label => (table.child label).text := by
  intro first second same
  have chars := congrArg String.toList same
  simp only [text_child, String.toList_append, List.append_cancel_left_eq] at chars
  exact String.toList_inj.mp chars

/-- A child has more characters than its parent. -/
theorem text_child_ne (table : TableName) (label : String) :
    (table.child label).text ≠ table.text := by
  intro same
  have lengths := congrArg (fun text : String => text.toList.length) same
  simp only [text_child, String.toList_append, List.length_append] at lengths
  have underscore : "_".toList.length = 1 := rfl
  omega

theorem child_ne (table : TableName) (label : String) : table.child label ≠ table := by
  intro same
  exact table.text_child_ne label (congrArg text same)

end TableName

namespace Ddl

open Text.Numeral

variable {table : TableName} {layout : Layout} {statements : List PartitionOf}

namespace PartitionOf

theorem text_remainderStatement (table : TableName) (modulus remainder : Nat) :
    (remainderStatement table modulus remainder).text =
      "CREATE TABLE " ++ table.text ++ "_p" ++ remainder.repr ++ " PARTITION OF " ++ table.text ++
        " FOR VALUES WITH (MODULUS " ++ modulus.repr ++ ", REMAINDER " ++ remainder.repr ++
          ")" := by
  have label : "_p" = "_" ++ "p" := by decide
  rw [remainderStatement, text_hash, label]
  simp only [String.append_assoc]

/-! ## What the statements of a layout are -/

theorem hash_eq_ok_iff {count : Nat} :
    hash table count = .ok statements ↔
      0 < count ∧ statements = (List.range count).map (remainderStatement table count) := by
  rw [hash]
  split
  · next zero => simp [zero]
  · next positive =>
      have above : 0 < count := Nat.pos_of_ne_zero positive
      rw [Except.ok.injEq, and_iff_right above, eq_comm]
      rfl

/-- Every statement of a layout is for a partition of the table. -/
theorem parent_of_mem {statement : PartitionOf} (written : ofLayout table layout = .ok statements)
    (member : statement ∈ statements) : statement.parent = table := by
  cases layout with
  | range column definitions includeFuture =>
      obtain ⟨_, rfl⟩ := range_eq_ok_iff.mp written
      obtain ⟨label, start, finish, rfl⟩ := eq_range_of_mem_chain table includeFuture member
      rfl
  | list column definitions =>
      obtain ⟨_, rfl⟩ := list_eq_ok_iff.mp written
      obtain ⟨definition, _, rfl⟩ := List.mem_map.mp member
      rfl
  | hash column count =>
      obtain ⟨_, rfl⟩ := hash_eq_ok_iff.mp written
      obtain ⟨remainder, _, rfl⟩ := List.mem_map.mp member
      rfl
  | key count => cases written
  | monthOfYear column =>
      cases written
      obtain ⟨month, _, rfl⟩ := List.mem_map.mp member
      rfl
  | calendar column buckets =>
      obtain ⟨label, bounds, rfl⟩ := eq_dates_of_mem_calendar written member
      rfl
  | parentTable column columnType method nullable =>
      cases written
      cases member

/-- The statements of a layout are all that is rendered of it. -/
theorem render_of_written (named : layout.NamesApart)
    (written : ofLayout table layout = .ok statements) :
    Strategy.render .partitionOf table layout = .ok (statements.map text) := by
  have texts : (ofLayout table layout).map (·.map text) = .ok (statements.map text) := by
    rw [written]
    rfl
  cases layout with
  | parentTable column columnType method nullable => exact named.elim
  | _ => exact texts

/-! ## The labels of a layout -/

theorem nodup_label_chain {definitions : List Definition} {includeFuture : Bool}
    (accepted : Definition.Accepted .range includeFuture definitions)
    (distinct : (definitions.map labelOf).Nodup) :
    ((chain table includeFuture minValue definitions).map label).Nodup := by
  rw [map_label_chain]
  apply nodup_labels_withFuture distinct
  intro wanted taken
  obtain ⟨definition, member, reserved⟩ := List.mem_map.mp taken
  exact accepted.unreserved wanted definition member reserved

theorem nodup_label_remainders (table : TableName) (modulus : Nat) :
    (((List.range modulus).map (remainderStatement table modulus)).map label).Nodup := by
  have injective : Function.Injective fun remainder : Nat => "p" ++ remainder.repr := by
    intro first second same
    have numerals : numbered "p" (some (first : Int)) = numbered "p" (some (second : Int)) := by
      rw [numbered, numbered, ofInt_natCast, ofInt_natCast]
      exact same
    exact Int.ofNat.inj (Option.some.inj (numbered_word_injective numerals))
  rw [List.map_map]
  exact List.nodup_range.map injective

theorem nodup_label_monthOfYear (table : TableName) :
    ((monthOfYear table).map label).Nodup := by
  rw [monthOfYear, List.map_map]
  exact Month.nodup_calendarOrder.map fun _ _ => Month.name_injective

theorem nodup_label_years (table : TableName) (span : YearSpan) :
    ((span.years.map (yearStatement table)).map label).Nodup := by
  rw [List.map_map]
  exact span.nodup_years.map fun _ _ => ofInt_inj.mp

/-- The letters of a label are its month, and what follows them is its year. -/
theorem nodup_label_months (table : TableName) (span : YearSpan) :
    ((span.months.map fun (year, month) => monthStatement table year month).map label).Nodup := by
  have injective : Function.Injective fun period : Int × Month =>
      (monthStatement table period.1 period.2).label := by
    rintro ⟨year, month⟩ ⟨otherYear, otherMonth⟩ same
    have parts : month.name = otherMonth.name ∧ some year = some otherYear :=
      numbered_inj month.alphabetic_name otherMonth.alphabetic_name same
    rw [Option.some.inj parts.2, Month.name_injective parts.1]
  rw [List.map_map]
  exact span.nodup_months.map injective

theorem nodup_label_calendar {buckets : CalendarBuckets}
    (written : calendar table buckets = .ok statements) : (statements.map label).Nodup := by
  cases granularity : buckets.granularity with
  | year =>
      rw [calendar_of_year granularity] at written
      cases written
      exact nodup_label_years table buckets.span
  | yearMonth =>
      rw [calendar_of_yearMonth granularity] at written
      cases written
      exact nodup_label_months table buckets.span

/-- No two statements of a layout have the same label. -/
theorem nodup_label (named : layout.NamesApart)
    (written : ofLayout table layout = .ok statements) : (statements.map label).Nodup := by
  cases layout with
  | range column definitions includeFuture =>
      obtain ⟨accepted, rfl⟩ := range_eq_ok_iff.mp written
      exact nodup_label_chain accepted named
  | list column definitions =>
      obtain ⟨_, rfl⟩ := list_eq_ok_iff.mp written
      rw [List.map_map]
      exact named
  | hash column count =>
      obtain ⟨_, rfl⟩ := hash_eq_ok_iff.mp written
      exact nodup_label_remainders table count
  | key count => exact named.elim
  | monthOfYear column =>
      cases written
      exact nodup_label_monthOfYear table
  | calendar column buckets => exact nodup_label_calendar written
  | parentTable column columnType method nullable => exact named.elim

end PartitionOf

/-! ## The tables of a layout -/

theorem childrenApart_of_written (named : layout.NamesApart)
    (written : PartitionOf.ofLayout table layout = .ok statements) :
    ChildrenApart table layout statements := by
  have children : ∀ statement ∈ statements, statement.child = table.child statement.label := by
    intro statement member
    rw [PartitionOf.child, PartitionOf.parent_of_mem written member]
  constructor
  case rendered => exact PartitionOf.render_of_written named written
  case created =>
    intro statement member
    rw [statement.text_eq, children statement member, TableName.text_child,
      PartitionOf.parent_of_mem written member]
    simp only [String.append_assoc]
  case spelled =>
    intro statement _
    exact statement.values.spelled
  case distinct =>
    have texts : (statements.map fun statement => statement.child.text) =
        (statements.map PartitionOf.label).map fun label => (table.child label).text := by
      rw [List.map_map]
      apply List.map_congr_left
      intro statement member
      rw [children statement member]
      rfl
    rw [texts]
    exact (PartitionOf.nodup_label named written).map table.text_child_injective
  case schema =>
    intro statement member
    rw [children statement member, TableName.schema_child]
  case apart =>
    intro statement member
    rw [children statement member]
    exact ⟨table.child_ne statement.label, table.text_child_ne statement.label⟩

/-- A value has one remainder, which is below the modulus. -/
theorem sharesRemainders_of_positive (table : TableName) {modulus : Nat} (positive : 0 < modulus) :
    SharesRemainders table modulus
      ((List.range modulus).map (PartitionOf.remainderStatement table modulus)) := by
  constructor
  case count => simp
  case divided =>
    intro statement member
    obtain ⟨remainder, listed, rfl⟩ := List.mem_map.mp member
    exact ⟨remainder, List.mem_range.mp listed, rfl,
      PartitionOf.text_remainderStatement table modulus remainder⟩
  case once =>
    intro value
    have holds (remainder : Nat) :
        (PartitionOf.remainderStatement table modulus remainder).values.holdsHash value =
          decide (remainder = value % modulus) := decide_eq_decide.mpr eq_comm
    have different : (List.range modulus).Nodup := List.nodup_range
    have once := filter_eq_of_nodup different (value % modulus)
    rw [if_pos (List.mem_range.mpr (Nat.mod_lt value positive))] at once
    rw [List.filter_map]
    simp only [Function.comp_def, holds, once, List.map_cons, List.map_nil]

/-- The tables that are created for a layout are all different and none of them is the parent,
and those of a hash share out its values; hashes and spans of years are always written. -/
theorem children_apart (table : TableName) {layout : Layout} (named : layout.NamesApart) :
    (∀ statements, PartitionOf.ofLayout table layout = .ok statements →
      ChildrenApart table layout statements) ∧
    (∀ column modulus, layout = .hash column modulus → 0 < modulus →
      ∃ statements, PartitionOf.ofLayout table layout = .ok statements ∧
        SharesRemainders table modulus statements) ∧
    ∀ column buckets, layout = .calendar column buckets →
      ∃ statements, PartitionOf.ofLayout table layout = .ok statements := by
  refine ⟨?_, ?_, ?_⟩
  · intro statements written
    exact childrenApart_of_written named written
  · rintro column modulus rfl positive
    exact ⟨_, PartitionOf.hash_eq_ok_iff.mpr ⟨positive, rfl⟩,
      sharesRemainders_of_positive table positive⟩
  · rintro column buckets rfl
    exact ⟨_, PartitionOf.calendar_eq_flatMap table buckets⟩

/-- Names that go on where others end, with backquotes around one of them. -/
def nestedRanges : List Definition :=
  [.range "p" "10", .range "\x60p_p\x60" "20", .range "future_p" "30"]

theorem nestedRanges_apart :
    (Layout.range "id" nestedRanges true).NamesApart ∧
      ChildrenApart ⟨some "app", "events"⟩ (.range "id" nestedRanges true)
        (PartitionOf.chain ⟨some "app", "events"⟩ true "MINVALUE" nestedRanges) := by
  have named : (Layout.range "id" nestedRanges true).NamesApart := by
    show (nestedRanges.map PartitionOf.labelOf).Nodup
    decide
  exact ⟨named, (children_apart ⟨some "app", "events"⟩ named).1 _ rfl⟩

end Ddl

end TablePartitioning
