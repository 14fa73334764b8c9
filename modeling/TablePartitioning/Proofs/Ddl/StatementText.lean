import TablePartitioning.Ddl.AlterTable
import TablePartitioning.Ddl.PartitionOf

/-!
# The texts of statements

No fragment of a statement is empty but for the one that says how partitions are divided further,
so that its text is made of the fragments with single blanks between them.  `SpellsRange` and
`SpellsRanges` write the texts of ranges out, each with the bounds that a server compares with.
-/

namespace TablePartitioning.Ddl

/-- What is told of all items, and of the one behind them where it is wanted. -/
theorem forall_mem_append_ite {Item : Type} {tells : Item → Prop} {items : List Item} {last : Item}
    {wanted : Bool} (explicit : ∀ item ∈ items, tells item) (final : tells last) :
    ∀ item ∈ items ++ if wanted then [last] else [], tells item := by
  intro item member
  rcases List.mem_append.mp member with early | late
  · exact explicit item early
  · cases wanted with
    | false => cases late
    | true =>
        rw [List.mem_singleton.mp late]
        exact final

theorem Fragments.push_of_ne {fragment : String} (nonempty : fragment ≠ "")
    (statement : Fragments) :
    statement.push fragment = { statement with tail := statement.tail ++ [fragment] } := by
  rw [Fragments.push, if_neg nonempty]

theorem Fragments.push_empty (statement : Fragments) : statement.push "" = statement := if_pos rfl

/-! ## Partitions of their own -/

namespace HeldValues

theorem text_range (start finish : String) :
    (HeldValues.range start finish).text =
      "FOR VALUES FROM (" ++ start ++ ") TO (" ++ finish ++ ")" := rfl

theorem text_list (values : List String) :
    (HeldValues.list values).text = "FOR VALUES IN (" ++ ", ".intercalate values ++ ")" := by
  have opening : "FOR VALUES IN (" = "FOR VALUES IN " ++ "(" := by decide
  have form : (HeldValues.list values).text =
    "FOR VALUES IN " ++ ("(" ++ ", ".intercalate values ++ ")") := rfl
  rw [form, opening]
  simp only [String.append_assoc]

theorem text_hash (modulus remainder : Nat) :
    (HeldValues.hash modulus remainder).text =
      "FOR VALUES WITH (MODULUS " ++ modulus.repr ++ ", REMAINDER " ++ remainder.repr ++ ")" := rfl

theorem text_ne (values : HeldValues) : values.text ≠ "" := by
  cases values with
  | range start finish => simp [text_range]
  | list values => simp [text_list]
  | hash modulus remainder => simp [text_hash]

end HeldValues

namespace PartitionOf

theorem text_eq (statement : PartitionOf) :
    statement.text = "CREATE TABLE " ++ statement.parent.text ++ "_" ++ statement.label ++
      " PARTITION OF " ++ statement.parent.text ++ " " ++ statement.values.text := by
  have parent : "PARTITION OF " ++ statement.parent.text ≠ "" := by simp
  have blank : " PARTITION OF " = " " ++ "PARTITION OF " := by decide
  rw [text, Fragments.push_of_ne parent, Fragments.push_of_ne statement.values.text_ne, child,
    TableName.text_child, blank]
  simp only [Fragments.ofHead, Fragments.text, List.nil_append, List.cons_append,
    String.intercalate_cons_cons, String.intercalate_singleton, String.append_assoc]

variable (table : TableName)

theorem text_range (label start finish : String) :
    (⟨table, label, .range start finish⟩ : PartitionOf).text =
      "CREATE TABLE " ++ table.text ++ "_" ++ label ++ " PARTITION OF " ++ table.text ++
        " FOR VALUES FROM (" ++ start ++ ") TO (" ++ finish ++ ")" := by
  have blank : " FOR VALUES FROM (" = " " ++ "FOR VALUES FROM (" := by decide
  rw [text_eq, HeldValues.text_range, blank]
  simp only [String.append_assoc]

theorem text_hash (label : String) (modulus remainder : Nat) :
    (⟨table, label, .hash modulus remainder⟩ : PartitionOf).text =
      "CREATE TABLE " ++ table.text ++ "_" ++ label ++ " PARTITION OF " ++ table.text ++
        " FOR VALUES WITH (MODULUS " ++ modulus.repr ++ ", REMAINDER " ++ remainder.repr ++
          ")" := by
  have blank : " FOR VALUES WITH (MODULUS " = " " ++ "FOR VALUES WITH (MODULUS " := by decide
  rw [text_eq, HeldValues.text_hash, blank]
  simp only [String.append_assoc]

/-- A statement for a range in full: the table that it creates, the parent of it, and both ends. -/
def SpellsRange (statement : PartitionOf) : Prop :=
  ∃ start finish, statement.values = .range start finish ∧
    statement.text =
      "CREATE TABLE " ++ table.text ++ "_" ++ statement.label ++ " PARTITION OF " ++ table.text ++
        " FOR VALUES FROM (" ++ start ++ ") TO (" ++ finish ++ ")"

theorem spellsRange_range (label start finish : String) :
    SpellsRange table ⟨table, label, .range start finish⟩ :=
  ⟨start, finish, rfl, text_range table label start finish⟩

end PartitionOf

/-! ## Partitions in place -/

namespace PartitionClause

theorem text_of_divided (definition : Definition) {names : List String} (divided : names ≠ []) :
    (PartitionClause.mk definition names).text =
      definition.clause ++ " (" ++ ", ".intercalate (names.map ("SUBPARTITION " ++ ·)) ++ ")" := by
  have listed : names.isEmpty = false := List.isEmpty_eq_false_iff.mpr divided
  have opening : " (" = " " ++ "(" := by decide
  rw [text, listed, if_neg Bool.false_ne_true, subpartitionList, ClauseList.text, opening]
  simp only [String.append_assoc]

/-- A clause for a range in full: its name and its bound, and its subpartitions between parentheses
where it has any. -/
def SpellsRange (clause : PartitionClause) : Prop :=
  ∃ bound, clause.definition.bound? = some bound ∧
    clause.text =
      "PARTITION " ++ clause.definition.name ++ " VALUES LESS THAN (" ++ bound ++ ")" ++
        if clause.subpartitions = [] then ""
        else " (" ++ ", ".intercalate (clause.subpartitions.map ("SUBPARTITION " ++ ·)) ++ ")"

theorem spellsRange_of_definition {clause : PartitionClause} {name bound : String}
    (range : clause.definition = .range name bound) : clause.SpellsRange := by
  obtain ⟨_, names⟩ := clause
  cases range
  refine ⟨bound, rfl, ?_⟩
  by_cases divided : names = []
  · rw [if_pos divided, divided, String.append_empty]
    rfl
  · have whole := Definition.clause_range name bound
    rw [Definition.range] at whole
    rw [if_neg divided, text_of_divided _ divided, whole]
    simp only [String.append_assoc]

end PartitionClause

theorem PartitionBody.text_clauses (list : List PartitionClause) :
    (PartitionBody.clauses list).text =
      "(" ++ ", ".intercalate (list.map PartitionClause.text) ++ ")" := rfl

theorem PartitionBody.text_ne (body : PartitionBody) : body.text ≠ "" := by
  cases body with
  | clauses list => simp [text_clauses]
  | count number =>
      have form : (PartitionBody.count number).text = "PARTITIONS " ++ number.repr := rfl
      simp [form]

/-- The text of a statement whose partitions are not divided further. -/
theorem AlterTable.text_of_undivided (table : TableName) (method : String) (body : PartitionBody) :
    (AlterTable.mk table method none body).text =
      "ALTER TABLE " ++ table.text ++ " PARTITION BY " ++ method ++ " " ++ body.text := by
  have dividing : "PARTITION BY " ++ method ≠ "" := by simp
  have ungiven : ((none : Option String).map ("SUBPARTITION BY " ++ ·)).getD "" = "" := rfl
  have blank : " PARTITION BY " = " " ++ "PARTITION BY " := by decide
  rw [text, ungiven, Fragments.push_of_ne dividing, Fragments.push_empty,
    Fragments.push_of_ne body.text_ne, blank]
  simp only [Fragments.ofHead, Fragments.text, List.nil_append, List.cons_append,
    String.intercalate_cons_cons, String.intercalate_singleton, String.append_assoc]

/-- The text of a statement whose partitions are divided further. -/
theorem AlterTable.text_of_divided (table : TableName) (method submethod : String)
    (body : PartitionBody) :
    (AlterTable.mk table method (some submethod) body).text =
      "ALTER TABLE " ++ table.text ++ " PARTITION BY " ++ method ++
        " SUBPARTITION BY " ++ submethod ++ " " ++ body.text := by
  have dividing : "PARTITION BY " ++ method ≠ "" := by simp
  have further : "SUBPARTITION BY " ++ submethod ≠ "" := by simp
  have given : ((some submethod).map ("SUBPARTITION BY " ++ ·)).getD "" =
    "SUBPARTITION BY " ++ submethod := rfl
  have blank : " PARTITION BY " = " " ++ "PARTITION BY " := by decide
  have otherBlank : " SUBPARTITION BY " = " " ++ "SUBPARTITION BY " := by decide
  rw [text, given, Fragments.push_of_ne dividing, Fragments.push_of_ne further,
    Fragments.push_of_ne body.text_ne, blank, otherBlank]
  simp only [Fragments.ofHead, Fragments.text, List.nil_append, List.cons_append,
    String.intercalate_cons_cons, String.intercalate_singleton, String.append_assoc]

/-- A statement that lists ranges in full: the table, what its rows are assigned by, and the clauses
between parentheses. -/
def AlterTable.SpellsRanges (table : TableName) (statement : AlterTable) : Prop :=
  ∃ clauses, statement.body = .clauses clauses ∧
    (∀ clause ∈ clauses, clause.SpellsRange) ∧
    statement.text =
      "ALTER TABLE " ++ table.text ++ " PARTITION BY " ++ statement.method ++
        (statement.submethod.elim "" (" SUBPARTITION BY " ++ ·)) ++
          " (" ++ ", ".intercalate (clauses.map PartitionClause.text) ++ ")"

theorem AlterTable.spellsRanges_of_clauses (table : TableName) (method : String)
    (submethod : Option String) {clauses : List PartitionClause}
    (ranges : ∀ clause ∈ clauses, ∃ name bound, clause.definition = .range name bound) :
    SpellsRanges table ⟨table, method, submethod, .clauses clauses⟩ := by
  refine ⟨clauses, rfl, ?_, ?_⟩
  · intro clause member
    obtain ⟨name, bound, range⟩ := ranges clause member
    exact PartitionClause.spellsRange_of_definition range
  · have opening : " (" = " " ++ "(" := by decide
    cases submethod with
    | none =>
        rw [text_of_undivided, PartitionBody.text_clauses, opening]
        simp only [Option.elim_none, String.append_empty, String.append_assoc]
    | some submethod =>
        rw [text_of_divided, PartitionBody.text_clauses, opening]
        simp only [Option.elim_some, String.append_assoc]

end TablePartitioning.Ddl
