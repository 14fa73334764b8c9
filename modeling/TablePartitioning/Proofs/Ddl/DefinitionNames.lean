import TablePartitioning.Proofs.Ddl.CalendarNames
import TablePartitioning.Proofs.Ddl.DefinitionRules
import TablePartitioning.Proofs.Ddl.RangeRouting
import TablePartitioning.Proofs.Ddl.StatementText

/-!
# Names of partitions from definitions

A table of its own is named after its definition without the backquotes.  Between backquotes a name
may hold anything, and it is not looked at again when they are gone: `childrenNamed` says what all
such names have, and which of them are plain.  The partition `future` is kept apart from explicit
ones letter by letter, while servers do not tell the cases of letters apart: `futureApart_iff` says
for which definitions that is enough.
-/

namespace TablePartitioning

namespace Ddl

/-! ## The names of tables of their own -/

namespace PartitionOf

variable (parent : TableName) (includeFuture : Bool)

theorem map_label_chain (lower : String) (definitions : List Definition) :
    (chain parent includeFuture lower definitions).map label =
      (Definition.withFuture definitions includeFuture).map labelOf := by
  have children := map_child_chain parent includeFuture lower definitions
  have labelled : (chain parent includeFuture lower definitions).map child =
      ((chain parent includeFuture lower definitions).map label).map parent.child := by
    rw [List.map_map]
    apply List.map_congr_left
    intro statement member
    obtain ⟨label, start, finish, rfl⟩ := eq_range_of_mem_chain parent includeFuture member
    rfl
  rw [labelled] at children
  exact List.map_injective_iff.mpr (fun _ _ => parent.child_injective) children

end PartitionOf

/-- Tables of their own for definitions: how they are named. -/
structure ChildrenNamed (table : TableName) (definitions : List Definition)
    (statements : List PartitionOf) : Prop where
  /-- What stands for the name in the text is the label, as it is. -/
  written : ∀ statement ∈ statements,
    statement.text = "CREATE TABLE " ++ table.text ++ "_" ++ statement.label ++
      " PARTITION OF " ++ table.text ++ " " ++ statement.values.text
  child : ∀ statement ∈ statements, statement.child = table.child statement.label
  labels : ∀ statement ∈ statements,
    statement.label ≠ "" ∧ Identifier.backquote ∉ statement.label.toList
  plain_iff : (∀ statement ∈ statements, Identifier.Plain statement.label) ↔
    ∀ definition ∈ definitions, Identifier.Plain definition.name ∨
      ∃ inner, Identifier.Plain inner ∧ definition.name = Identifier.quote inner

theorem plain_labelOf_future : Identifier.Plain (PartitionOf.labelOf Definition.future) := by
  apply Identifier.isPlain_iff.mp
  decide

theorem childrenNamed_of_labels {table : TableName} {definitions : List Definition}
    {includeFuture : Bool} {statements : List PartitionOf}
    (parents : ∀ statement ∈ statements, statement.parent = table)
    (labels : statements.map PartitionOf.label =
      (Definition.withFuture definitions includeFuture).map PartitionOf.labelOf)
    (named : ∀ definition ∈ definitions, Identifier.Names definition.name) :
    ChildrenNamed table definitions statements := by
  constructor
  case written =>
    intro statement member
    rw [statement.text_eq, parents statement member]
  case child =>
    intro statement member
    rw [PartitionOf.child, parents statement member]
  case labels =>
    have told : ∀ label ∈ statements.map PartitionOf.label,
        label ≠ "" ∧ Identifier.backquote ∉ label.toList := by
      rw [labels, List.forall_mem_map]
      apply forall_mem_append_ite
      case explicit =>
        intro definition member
        exact Identifier.unquoted_spec (named definition member)
      case final =>
        exact ⟨plain_labelOf_future.nonempty, plain_labelOf_future.backquote_not_mem⟩
    intro statement member
    exact told statement.label (List.mem_map_of_mem member)
  case plain_iff =>
    rw [← List.forall_mem_map, labels, List.forall_mem_map, Definition.withFuture,
      List.forall_mem_append]
    have future : ∀ definition ∈ (if includeFuture then [Definition.future] else []),
        Identifier.Plain (PartitionOf.labelOf definition) := by
      cases includeFuture with
      | false => simp
      | true => simpa using plain_labelOf_future
    rw [and_iff_left future]
    apply forall₂_congr
    intro definition member
    exact Identifier.plain_unquoted_iff (named definition member)

/-- Tables of their own for ranges or for lists are named after their definitions. -/
theorem childrenNamed_of_written {table : TableName} {column : String} {layout : Layout}
    {definitions : List Definition} {includeFuture : Bool} {statements : List PartitionOf}
    (listed : layout = .range column definitions includeFuture ∨ layout = .list column definitions)
    (written : PartitionOf.ofLayout table layout = .ok statements) :
    Strategy.render .partitionOf table layout = .ok (statements.map PartitionOf.text) ∧
      ChildrenNamed table definitions statements := by
  rcases listed with rfl | rfl
  · constructor
    · simp [Strategy.render, written, Except.map]
    · obtain ⟨accepted, rfl⟩ := PartitionOf.range_eq_ok_iff.mp written
      apply childrenNamed_of_labels
      case parents =>
        intro statement member
        obtain ⟨label, start, finish, rfl⟩ :=
          PartitionOf.eq_range_of_mem_chain table includeFuture member
        rfl
      case labels => exact PartitionOf.map_label_chain table includeFuture _ definitions
      case named =>
        intro definition member
        exact (accepted.wellFormed definition member).named
  · constructor
    · simp [Strategy.render, written, Except.map]
    · obtain ⟨accepted, rfl⟩ := PartitionOf.list_eq_ok_iff.mp written
      apply childrenNamed_of_labels
      case includeFuture => exact false
      case parents =>
        intro statement member
        obtain ⟨definition, _, rfl⟩ := List.mem_map.mp member
        rfl
      case labels => simp [Definition.withFuture, Function.comp_def]
      case named =>
        intro definition member
        exact (accepted.wellFormed definition member).named

/-- A name between backquotes and one with a dollar sign. -/
def compassRanges : List Definition :=
  [.range "\x60north\x60" "1", .range "south$1" " 20 "]

theorem compassRanges_childrenNamed :
    PartitionOf.ofLayout ⟨some "app", "events"⟩ (.range "region" compassRanges true) =
        .ok (PartitionOf.chain ⟨some "app", "events"⟩ true "MINVALUE" compassRanges) ∧
      Strategy.render .partitionOf ⟨some "app", "events"⟩ (.range "region" compassRanges true) =
          .ok ((PartitionOf.chain ⟨some "app", "events"⟩ true "MINVALUE" compassRanges).map
            PartitionOf.text) ∧
        ChildrenNamed ⟨some "app", "events"⟩ compassRanges
          (PartitionOf.chain ⟨some "app", "events"⟩ true "MINVALUE" compassRanges) :=
  ⟨rfl, childrenNamed_of_written (.inl rfl) rfl⟩

/-- A name between backquotes, with words of another statement. -/
def sneakyRange : Definition :=
  .range "`old (id int); DROP TABLE users; --`" "10"

theorem sneakyRange_not_plain :
    PartitionOf.range ⟨none, "events"⟩ [sneakyRange] false =
        .ok [⟨⟨none, "events"⟩, "old (id int); DROP TABLE users; --", .range "MINVALUE" "10"⟩] ∧
      Strategy.render .partitionOf ⟨none, "events"⟩ (.range "id" [sneakyRange] false) =
        .ok ["CREATE TABLE events_old (id int); DROP TABLE users; -- PARTITION OF events " ++
          "FOR VALUES FROM (MINVALUE) TO (10)"] ∧
      ¬ Identifier.Plain "old (id int); DROP TABLE users; --" := by
  refine ⟨rfl, rfl, ?_⟩
  intro plain
  have refused : Identifier.isPlain "old (id int); DROP TABLE users; --".toList = false := by decide
  rw [Identifier.isPlain_iff.mpr plain] at refused
  cases refused

/-! ## The place of `future` -/

end Ddl

/-- A name as servers compare names: without its backquotes and in lower case. -/
def Identifier.folded (name : String) : String :=
  Text.lowerAscii (unquoted name)

theorem Text.lowerAscii_append (left right : String) :
    lowerAscii (left ++ right) = lowerAscii left ++ lowerAscii right := by
  simp [lowerAscii, String.ofList_append]

theorem TableName.lowerAscii_child_eq_iff (table : TableName) (first second : String) :
    Text.lowerAscii (table.child first).text = Text.lowerAscii (table.child second).text ↔
      Text.lowerAscii first = Text.lowerAscii second := by
  simp only [text_child, Text.lowerAscii_append, ← String.toList_inj, String.toList_append,
    List.append_cancel_left_eq]

namespace Ddl

variable {table : TableName} {column : String} {definitions : List Definition}

theorem AlterTable.names_of_body {statement : AlterTable} {includeFuture : Bool}
    (body : statement.body = .clauses (clausesOf definitions includeFuture)) :
    statement.names = (Definition.withFuture definitions includeFuture).map Definition.name := by
  rw [names, body]
  simp only [clausesOf]
  rw [List.flatMap_map]
  exact (List.map_eq_flatMap).symm

/-- The partition `future` collides with no explicit one: neither its name in place, nor its table
where partitions are tables of their own. -/
structure FutureApart (table : TableName) (column : String) (definitions : List Definition) :
    Prop where
  named : ∀ definition ∈ definitions, Identifier.folded definition.name ≠ "future"
  inPlace : ∀ statement, AlterTable.range table column definitions true = .ok statement →
    ∃ explicit, statement.names = explicit ++ ["future"] ∧
      ∀ name ∈ explicit, Identifier.folded name ≠ Identifier.folded "future"
  apart : ∀ statements, PartitionOf.range table definitions true = .ok statements →
    ∃ explicit, statements.map PartitionOf.child = explicit ++ [table.child "future"] ∧
      ∀ child ∈ explicit,
        Text.lowerAscii child.text ≠ Text.lowerAscii (table.child "future").text

theorem futureApart_of_folded
    (named : ∀ definition ∈ definitions, Identifier.folded definition.name ≠ "future") :
    FutureApart table column definitions := by
  constructor
  case named => exact named
  case inPlace =>
    intro statement written
    obtain ⟨_, rfl⟩ := AlterTable.range_eq_ok_iff.mp written
    have folded : Identifier.folded "future" = "future" := by decide
    refine ⟨definitions.map Definition.name, ?_, ?_⟩
    · rw [AlterTable.names_of_body rfl, Definition.withFuture, List.map_append]
      rfl
    · intro name listed
      obtain ⟨definition, member, rfl⟩ := List.mem_map.mp listed
      rw [folded]
      exact named definition member
  case apart =>
    intro statements written
    obtain ⟨_, rfl⟩ := PartitionOf.range_eq_ok_iff.mp written
    have folded : Text.lowerAscii "future" = "future" := by decide
    refine ⟨(definitions.map PartitionOf.labelOf).map table.child, ?_, ?_⟩
    · rw [PartitionOf.map_child_chain, Definition.withFuture, List.map_append, List.map_append]
      rfl
    · intro child created
      obtain ⟨label, labelled, rfl⟩ := List.mem_map.mp created
      obtain ⟨definition, member, rfl⟩ := List.mem_map.mp labelled
      rw [ne_eq, table.lowerAscii_child_eq_iff, folded]
      exact named definition member

/-- A definition whose name is `future` but for the case of its letters. -/
def RecasesFuture (definition : Definition) : Prop :=
  Identifier.folded definition.name = "future" ∧ Identifier.unquoted definition.name ≠ "future"

/-- The name `future` itself is never taken, and other spellings of it are all that collides. -/
theorem futureApart_iff {strategy : Strategy} {statements : List String}
    (rendered : strategy.render table (.range column definitions true) = .ok statements) :
    (∀ definition ∈ definitions, Identifier.unquoted definition.name ≠ "future") ∧
      (FutureApart table column definitions ↔
        ∀ definition ∈ definitions, ¬ RecasesFuture definition) := by
  have accepted := (range_judges table column definitions true).accepts strategy |>.mp
    ⟨statements, rendered⟩
  have unreserved := accepted.unreserved rfl
  refine ⟨unreserved, ?_⟩
  constructor
  · intro apart definition member recased
    exact apart.named definition member recased.1
  · intro exact_only
    apply futureApart_of_folded
    intro definition member folded
    exact exact_only definition member ⟨folded, unreserved definition member⟩

/-- Names that begin like `future` or that only letters in upper case tell from others. -/
def pastRanges : List Definition :=
  [.range "\x60Past\x60" "10", .range "FUTURES" "20"]

theorem pastRanges_futureApart_iff :
    Strategy.render .alterTable ⟨none, "events"⟩ (.range "id" pastRanges true) =
        .ok ["ALTER TABLE events PARTITION BY RANGE(id) " ++
          "(PARTITION \x60Past\x60 VALUES LESS THAN (10), " ++
          "PARTITION FUTURES VALUES LESS THAN (20), " ++
          "PARTITION future VALUES LESS THAN (MAXVALUE))"] ∧
      (∀ definition ∈ pastRanges, Identifier.unquoted definition.name ≠ "future") ∧
        (FutureApart ⟨none, "events"⟩ "id" pastRanges ↔
          ∀ definition ∈ pastRanges, ¬ RecasesFuture definition) := by
  have rendered :
      Strategy.render .alterTable ⟨none, "events"⟩ (.range "id" pastRanges true) =
        .ok ["ALTER TABLE events PARTITION BY RANGE(id) " ++
          "(PARTITION \x60Past\x60 VALUES LESS THAN (10), " ++
          "PARTITION FUTURES VALUES LESS THAN (20), " ++
          "PARTITION future VALUES LESS THAN (MAXVALUE))"] := rfl
  exact ⟨rendered, futureApart_iff rendered⟩

/-- A name that is `future` with a capital letter. -/
def capitalFuture : Definition := .range "Future" "10"

theorem capitalFuture_not_futureApart :
    Strategy.render .alterTable ⟨none, "events"⟩ (.range "id" [capitalFuture] true) =
        .ok ["ALTER TABLE events PARTITION BY RANGE(id) (" ++
          "PARTITION Future VALUES LESS THAN (10), PARTITION future VALUES LESS THAN (MAXVALUE))"] ∧
      Strategy.render .partitionOf ⟨none, "events"⟩ (.range "id" [capitalFuture] true) =
        .ok ["CREATE TABLE events_Future PARTITION OF events FOR VALUES FROM (MINVALUE) TO (10)",
          "CREATE TABLE events_future PARTITION OF events FOR VALUES FROM (10) TO (MAXVALUE)"] ∧
      ¬ FutureApart ⟨none, "events"⟩ "id" [capitalFuture] := by
  refine ⟨rfl, rfl, ?_⟩
  intro apart
  exact apart.named capitalFuture List.mem_cons_self (by decide)

end Ddl

end TablePartitioning
