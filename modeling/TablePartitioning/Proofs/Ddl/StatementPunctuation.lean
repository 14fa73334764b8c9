import TablePartitioning.Proofs.Ddl.CalendarSubpartitions
import TablePartitioning.Proofs.Ddl.DefinitionRules
import TablePartitioning.Proofs.Ddl.StatementText
import TablePartitioning.Proofs.Text.Punctuation

/-!
# The punctuation of statements

Parentheses and commas of a statement are those of the texts that it is made for, and those that
are written around them.  The latter are balanced, and a comma of theirs is followed by a value or
a clause, since no value is blank.  So a statement for balanced texts is balanced, and no comma in
it has a closing parenthesis after it.
-/

namespace TablePartitioning

open Text (Closed Level Listable)

/-! ## What is written without regard to the texts -/

theorem Month.closed_name (month : Month) : Closed month.name := by
  cases month <;> rfl

theorem closed_yearText (year : Int) : Closed (yearText year) := by
  unfold yearText
  split
  · exact Closed.append rfl (Text.closed_padded 4 _)
  · split
    · exact Text.closed_padded 4 _
    · exact Closed.append rfl (Text.closed_padded 4 _)

theorem MonthStart.closed_text (start : MonthStart) : Closed start.text := by
  have dash : Closed "-" := rfl
  have firstDay : Closed "-01" := rfl
  exact (((closed_yearText start.year).append dash).append (Text.closed_padded 2 _)).append firstDay

theorem Failure.exists_of_map_eq_ok {Result Other : Type} {computed : Except Failure Result}
    {apply : Result → Other} {value : Other} (succeeds : computed.map apply = .ok value) :
    ∃ result, computed = .ok result ∧ value = apply result := by
  cases computed with
  | error failure => cases succeeds
  | ok result =>
      cases succeeds
      exact ⟨result, rfl, rfl⟩

namespace Ddl

/-- An apostrophe that is written twice makes no more of a text than one. -/
theorem Literal.read_doubled (state : Text.Punctuation) (chars : List Char) :
    state.read (doubled chars) = state.read chars := by
  induction chars generalizing state with
  | nil => rfl
  | cons c rest inductionHypothesis =>
      rw [doubled]
      split
      · next apostrophe =>
          -- Nothing is pending after the first apostrophe, and the second changes nothing.
          subst apostrophe
          exact inductionHypothesis ⟨state.depth, false⟩
      · rw [Text.Punctuation.read_cons, Text.Punctuation.read_cons]
        simp only [inductionHypothesis]

theorem Literal.closed_quote {text : String} (closed : Closed text) : Closed (quote text) := by
  have chars : (quote text).toList = ['\''] ++ (doubled text.toList ++ ['\'']) := by
    rw [quote, String.toList_ofList]
    rfl
  have apostrophe : Text.Punctuation.read ⟨0, false⟩ ['\''] = some ⟨0, false⟩ := rfl
  rw [Closed, chars, Text.Punctuation.read_append, apostrophe, Option.bind_some,
    Text.Punctuation.read_append, read_doubled, closed]
  exact apostrophe

end Ddl

/-- The texts of a definition. -/
def Definition.texts (definition : Definition) : List String := definition.name :: definition.values

/-- The texts that a layout is given with. -/
def Layout.texts : Layout → List String
  | .range column definitions _ => column :: definitions.flatMap Definition.texts
  | .list column definitions => column :: definitions.flatMap Definition.texts
  | .hash column _ => [column]
  | .key _ => []
  | .monthOfYear column => [column]
  | .calendar column _ => [column]
  | .parentTable column columnType _ _ => [column, columnType]

/-! ## Definitions -/

namespace Definition

variable {definition : Definition} {kind : BoundKind}

/-- A definition that can be written as a clause. -/
structure Fitting (definition : Definition) : Prop where
  name : Closed definition.name
  values : ∀ value ∈ definition.values, Listable value

theorem HasValues.filled {values : List String} (valued : HasValues kind values) :
    ∀ value ∈ values, Text.trim value ≠ "" := by
  cases kind with
  | range =>
      obtain ⟨bound, rfl, filled⟩ := valued
      simpa using filled
  | list => exact valued.2

theorem WellFormed.fitting (wellFormed : definition.WellFormed kind)
    (closed : ∀ text ∈ definition.texts, Closed text) : definition.Fitting := by
  constructor
  case name => exact closed definition.name List.mem_cons_self
  case values =>
    intro value member
    have filled := wellFormed.valued.filled value member
    exact (closed value (List.mem_cons_of_mem _ member)).listable filled

theorem Accepted.fitting {definitions : List Definition} {includeFuture : Bool}
    (accepted : Accepted kind includeFuture definitions)
    (closed : ∀ text ∈ definitions.flatMap texts, Closed text) :
    ∀ definition ∈ definitions, definition.Fitting := by
  intro definition member
  apply (accepted.wellFormed definition member).fitting
  intro text inside
  exact closed text (List.mem_flatMap.mpr ⟨definition, member, inside⟩)

theorem Fitting.ofRange {name bound : String} (named : Closed name) (bounded : Listable bound) :
    (range name bound).Fitting :=
  ⟨named, fun value member => by rwa [List.mem_singleton.mp member]⟩

theorem fitting_future : future.Fitting := .ofRange rfl fun comma => by cases comma <;> rfl

theorem Fitting.closed_bound {bound : String} (fitting : definition.Fitting)
    (found : definition.bound? = some bound) : Closed bound := by
  unfold bound? at found
  split at found
  · exact (fitting.values bound (List.mem_of_head? found)).closed
  · cases found

theorem Fitting.listable_clause (fitting : definition.Fitting) : Listable definition.clause := by
  have opening : Listable "PARTITION " := fun comma => by cases comma <;> rfl
  have named := opening.append fitting.name
  have values := Text.closed_intercalate fitting.values
  unfold clause
  split
  · have held : Closed (" VALUES LESS THAN (" ++ ", ".intercalate definition.values ++ ")") :=
      values.between rfl rfl
    simpa only [String.append_assoc] using named.append held
  · have held : Closed (" VALUES IN (" ++ ", ".intercalate definition.values ++ ")") :=
      values.between rfl rfl
    simpa only [String.append_assoc] using named.append held

end Definition

namespace Ddl

theorem ClauseList.closed_text {list : ClauseList} (listable : ∀ item ∈ list.items, Listable item) :
    Closed list.text :=
  (Text.closed_intercalate listable).between rfl rfl

namespace Fragments

/-- A statement whose fragments leave nothing open. -/
def Complete (statement : Fragments) : Prop :=
  ∀ fragment ∈ statement.head :: statement.tail, Closed fragment

theorem complete_ofHead {head : String} (closed : Closed head) : (ofHead head).Complete := by
  rw [Complete, List.forall_mem_cons]
  exact ⟨closed, by simp [ofHead]⟩

theorem Complete.push {statement : Fragments} (complete : statement.Complete) {fragment : String}
    (closed : Closed fragment) : (statement.push fragment).Complete := by
  unfold Fragments.push
  split
  · exact complete
  · intro other member
    rw [← List.cons_append] at member
    rcases List.mem_append.mp member with before | last
    · exact complete other before
    · rwa [List.mem_singleton.mp last]

theorem Complete.pushIf {statement : Fragments} (complete : statement.Complete) {fragment : String}
    (closed : Closed fragment) (condition : Bool) :
    (statement.pushIf condition fragment).Complete := by
  cases condition with
  | false => exact complete
  | true => exact complete.push closed

theorem Complete.closed_text {statement : Fragments} (complete : statement.Complete) :
    Closed statement.text := by
  have blank : Closed " " := rfl
  exact Text.closed_intercalate_of_closed blank complete

end Fragments

/-! ## Partitions in place -/

theorem PartitionClause.listable_text {clause : PartitionClause}
    (fitting : clause.definition.Fitting)
    (named : ∀ name ∈ clause.subpartitions, Closed name) : Listable clause.text := by
  have opening : Listable "SUBPARTITION " := fun comma => by cases comma <;> rfl
  have blank : Closed " " := rfl
  unfold text
  split
  · exact fitting.listable_clause
  · apply (fitting.listable_clause.append blank).append
    apply ClauseList.closed_text
    intro item member
    obtain ⟨name, listed, rfl⟩ := List.mem_map.mp member
    exact opening.append (named name listed)

theorem PartitionBody.closed_clauses {clauses : List PartitionClause}
    (listable : ∀ clause ∈ clauses, Listable clause.text) :
    Closed (PartitionBody.clauses clauses).text := by
  apply ClauseList.closed_text
  intro item member
  obtain ⟨clause, listed, rfl⟩ := List.mem_map.mp member
  exact listable clause listed

theorem PartitionBody.closed_count (number : Nat) : Closed (PartitionBody.count number).text :=
  Text.Closed.append rfl (Text.closed_repr number)

namespace AlterTable

variable {table : TableName} {column : String} {layout : Layout}

theorem closed_text {method : String} {submethod : Option String} {body : PartitionBody}
    (named : Closed table.text) (methodClosed : Closed method)
    (submethodClosed : ∀ further ∈ submethod, Closed further) (bodyClosed : Closed body.text) :
    Closed (AlterTable.mk table method submethod body).text := by
  have opening : Closed "ALTER TABLE " := rfl
  have dividing : Closed "PARTITION BY " := rfl
  have divided : Closed ((submethod.map ("SUBPARTITION BY " ++ ·)).getD "") := by
    cases submethod with
    | none => rfl
    | some further =>
        have dividingFurther : Closed "SUBPARTITION BY " := rfl
        exact dividingFurther.append (submethodClosed further rfl)
  have head := Fragments.complete_ofHead (opening.append named)
  exact (((head.push (dividing.append methodClosed)).push divided).push bodyClosed).closed_text

theorem closed_undivided {method : String} {body : PartitionBody} (named : Closed table.text)
    (methodClosed : Closed method) (bodyClosed : Closed body.text) :
    Closed (AlterTable.mk table method none body).text :=
  closed_text named methodClosed (by simp) bodyClosed

theorem closed_clausesOf {definitions : List Definition}
    (fitting : ∀ definition ∈ definitions, definition.Fitting) (includeFuture : Bool) :
    Closed (PartitionBody.clauses (clausesOf definitions includeFuture)).text := by
  apply PartitionBody.closed_clauses
  intro clause member
  obtain ⟨definition, listed, rfl⟩ := List.mem_map.mp member
  have fits : definition.Fitting :=
    forall_mem_append_ite fitting Definition.fitting_future definition listed
  apply PartitionClause.listable_text fits
  intro name subpartition
  cases subpartition

variable {statement : AlterTable} {definitions : List Definition} {includeFuture : Bool}

theorem closed_range (named : Closed table.text) (closed : Closed column)
    (fitting : Definition.Accepted .range includeFuture definitions →
      ∀ definition ∈ definitions, definition.Fitting)
    (written : range table column definitions includeFuture = .ok statement) :
    Closed statement.text := by
  obtain ⟨accepted, rfl⟩ := range_eq_ok_iff.mp written
  have clauses := closed_clausesOf (fitting accepted) includeFuture
  exact closed_undivided named (closed.between rfl rfl) clauses

theorem closed_list (named : Closed table.text) (closed : Closed column)
    (fitting : Definition.Accepted .list false definitions →
      ∀ definition ∈ definitions, definition.Fitting)
    (written : list table column definitions = .ok statement) : Closed statement.text := by
  obtain ⟨accepted, rfl⟩ := list_eq_ok_iff.mp written
  have clauses := closed_clausesOf (fitting accepted) false
  exact closed_undivided named (closed.between rfl rfl) clauses

theorem closed_counted {method : String} {count : Nat} (named : Closed table.text)
    (closed : Closed method) (written : counted table method count = .ok statement) :
    Closed statement.text := by
  unfold counted at written
  split at written
  · cases written
  · cases written
    exact closed_undivided named closed (PartitionBody.closed_count count)

theorem closed_monthOfYear (named : Closed table.text) (closed : Closed column) :
    Closed (monthOfYear table column).text := by
  apply closed_undivided named (closed.between rfl rfl)
  apply PartitionBody.closed_clauses
  intro clause member
  obtain ⟨month, _, rfl⟩ := List.mem_map.mp member
  have bound : Listable (month.number + 1).repr :=
    (Text.closed_repr _).listable (by cases month <;> decide)
  apply PartitionClause.listable_text (.ofRange (month.closed_name.between rfl rfl) bound)
  intro name subpartition
  cases subpartition

/-! ## Years in place -/

theorem closed_yearExpression (closed : Closed column) (timestamp : Bool) :
    Closed (yearExpression column timestamp) := by
  cases timestamp with
  | false => exact closed.between rfl rfl
  | true => exact closed.between rfl rfl

theorem listable_yearBound (year : Int) (timestamp : Bool) :
    Listable (yearBound year timestamp) := by
  have filled := isBlankText_yearBound year timestamp
  rw [← Bool.not_eq_true, Text.isBlankText_iff_trim] at filled
  refine Text.Closed.listable ?_ filled
  cases timestamp with
  | false => exact Text.closed_ofInt (year + 1)
  | true => exact (Text.closed_ofInt (year + 1)).between rfl rfl

theorem fitting_yearDefinition (timestamp : Bool) (year : Int) :
    (yearDefinition timestamp year).Fitting :=
  .ofRange (Text.Closed.append rfl (Text.closed_ofInt year)) (listable_yearBound year timestamp)

theorem closed_yearMonthClauses (span : YearSpan) (includeFuture timestamp : Bool) :
    Closed (PartitionBody.clauses (yearMonthClauses span includeFuture timestamp)).text := by
  apply PartitionBody.closed_clauses
  apply forall_mem_append_ite
  case explicit =>
    rw [List.forall_mem_map]
    intro year _
    apply PartitionClause.listable_text (fitting_yearDefinition timestamp year)
    intro name listed
    obtain ⟨month, _, rfl⟩ := List.mem_map.mp listed
    exact month.closed_name.append (Text.closed_ofInt year)
  case final =>
    apply PartitionClause.listable_text Definition.fitting_future
    intro name listed
    obtain ⟨month, _, rfl⟩ := List.mem_map.mp listed
    exact month.closed_name.between rfl rfl

theorem closed_calendar {buckets : CalendarBuckets} (named : Closed table.text)
    (closed : Closed column) (written : calendar table column buckets = .ok statement) :
    Closed statement.text := by
  obtain ⟨span, granularity, includeFuture, timestamp⟩ := buckets
  have expression := closed_yearExpression closed timestamp
  cases granularity with
  | year =>
      apply closed_range named expression ?_ written
      intro _ definition member
      obtain ⟨year, _, rfl⟩ := List.mem_map.mp member
      exact fitting_yearDefinition timestamp year
  | yearMonth =>
      rw [calendar_yearMonth] at written
      cases written
      apply closed_text named
      case methodClosed => exact expression.between rfl rfl
      case submethodClosed =>
        rintro submethod ⟨⟩
        exact closed.between rfl rfl
      case bodyClosed => exact closed_yearMonthClauses span includeFuture timestamp

/-! ## Layouts in place -/

theorem closed_ofLayout (named : Closed table.text) (closed : ∀ text ∈ layout.texts, Closed text)
    {statements : List AlterTable} (written : ofLayout table layout = .ok statements) :
    ∀ statement ∈ statements, Closed statement.text := by
  cases layout with
  | range column definitions includeFuture =>
      obtain ⟨statement, succeeds, rfl⟩ := Failure.exists_of_map_eq_ok written
      obtain ⟨columnClosed, listed⟩ := List.forall_mem_cons.mp closed
      rw [List.forall_mem_singleton]
      exact closed_range named columnClosed (fun accepted => accepted.fitting listed) succeeds
  | list column definitions =>
      obtain ⟨statement, succeeds, rfl⟩ := Failure.exists_of_map_eq_ok written
      obtain ⟨columnClosed, listed⟩ := List.forall_mem_cons.mp closed
      rw [List.forall_mem_singleton]
      exact closed_list named columnClosed (fun accepted => accepted.fitting listed) succeeds
  | hash column count =>
      obtain ⟨statement, succeeds, rfl⟩ := Failure.exists_of_map_eq_ok written
      have columnClosed := closed column List.mem_cons_self
      rw [List.forall_mem_singleton]
      exact closed_counted named (columnClosed.between rfl rfl) succeeds
  | key count =>
      obtain ⟨statement, succeeds, rfl⟩ := Failure.exists_of_map_eq_ok written
      have byKey : Closed "KEY()" := rfl
      rw [List.forall_mem_singleton]
      exact closed_counted named byKey succeeds
  | monthOfYear column =>
      cases written
      rw [List.forall_mem_singleton]
      exact closed_monthOfYear named (closed column List.mem_cons_self)
  | calendar column buckets =>
      obtain ⟨statement, succeeds, rfl⟩ := Failure.exists_of_map_eq_ok written
      rw [List.forall_mem_singleton]
      exact closed_calendar named (closed column List.mem_cons_self) succeeds
  | parentTable column columnType method nullable =>
      cases written
      simp

end AlterTable

/-! ## Partitions as tables of their own -/

namespace HeldValues

theorem closed_range {start finish : String} (lower : Closed start) (upper : Closed finish) :
    Closed (HeldValues.range start finish).text := by
  have first : Closed ("FOR VALUES FROM (" ++ start ++ ")") := lower.between rfl rfl
  have second : Closed (" TO (" ++ finish ++ ")") := upper.between rfl rfl
  have parts : (HeldValues.range start finish).text =
      ("FOR VALUES FROM (" ++ start ++ ")") ++ (" TO (" ++ finish ++ ")") := by
    have gap : ") TO (" = ")" ++ " TO (" := by decide
    rw [text_range, gap]
    simp only [String.append_assoc]
  rw [parts]
  exact first.append second

theorem closed_list {values : List String} (listable : ∀ value ∈ values, Listable value) :
    Closed (HeldValues.list values).text :=
  Text.Closed.append rfl (ClauseList.closed_text listable)

theorem closed_hash (modulus remainder : Nat) :
    Closed (HeldValues.hash modulus remainder).text := by
  have comma : Closed ", REMAINDER " := rfl
  have numbers := ((Text.closed_repr modulus).append comma).append (Text.closed_repr remainder)
  have held : Closed ("FOR VALUES WITH (MODULUS " ++
      (modulus.repr ++ ", REMAINDER " ++ remainder.repr) ++ ")") := numbers.between rfl rfl
  rw [text_hash]
  simpa only [String.append_assoc] using held

theorem closed_dates (bounds : MonthStart × MonthStart) : Closed (dates bounds).text := by
  have start := Literal.closed_quote bounds.1.closed_text
  have finish := Literal.closed_quote bounds.2.closed_text
  exact closed_range start finish

end HeldValues

namespace PartitionOf

variable {table : TableName} {layout : Layout}

/-- What stands between backquotes may end in a comma, which no parenthesis follows here either. -/
theorem level_labelOf {definition : Definition} (named : Identifier.Names definition.name)
    (closed : Closed definition.name) : Level (labelOf definition) := by
  rcases named with plain | ⟨inner, _, absent, quoted⟩
  · rw [labelOf, Identifier.unquoted_of_not_mem plain.backquote_not_mem]
    exact closed.level
  · rw [labelOf, quoted, Identifier.unquoted_quote absent]
    rw [quoted, Closed, Identifier.toList_quote, Text.Punctuation.read_cons] at closed
    obtain ⟨⟨depth, comma⟩, within, last⟩ := Option.bind_eq_some_iff.mp
      ((Text.Punctuation.read_append _ _ _).symm.trans closed)
    have shallow : depth = 0 := by
      injection last with states
      injection states
    subst shallow
    exact ⟨comma, within⟩

theorem closed_text {statement : PartitionOf} (parent : Closed statement.parent.text)
    (label : Level statement.label) (values : Closed statement.values.text) :
    Closed statement.text := by
  have opening : Closed "CREATE TABLE " := rfl
  have underscore : Closed "_" := rfl
  have attaching : Listable " PARTITION OF " := fun comma => by cases comma <;> rfl
  have blank : Closed " " := rfl
  have child := ((opening.append parent).append underscore).level_append label
  rw [text_eq]
  exact (((child.closed_append attaching).append parent).append blank).append values

variable {definitions : List Definition} {includeFuture : Bool} {statements : List PartitionOf}

theorem closed_chain (parent : Closed table.text)
    (levels : ∀ definition ∈ definitions, Level (labelOf definition))
    (fitting : ∀ definition ∈ definitions, definition.Fitting) {lower : String}
    (lowerClosed : Closed lower) :
    ∀ statement ∈ chain table includeFuture lower definitions, Closed statement.text := by
  -- The lower end moves along the chain, closed as every upper end before it.
  induction definitions generalizing lower with
  | nil =>
      cases includeFuture with
      | false => simp [chain]
      | true =>
          have future : Closed Definition.future.name := rfl
          have most : Closed Definition.maxValue := rfl
          rw [chain, if_pos rfl, List.forall_mem_singleton]
          exact closed_text parent future.level (HeldValues.closed_range lowerClosed most)
  | cons definition rest inductionHypothesis =>
      rw [List.forall_mem_cons] at levels fitting
      have upperClosed : Closed (definition.bound?.getD Definition.maxValue) := by
        cases found : definition.bound? with
        | none => rfl
        | some bound => exact fitting.1.closed_bound found
      rw [chain, List.forall_mem_cons]
      constructor
      · exact closed_text parent levels.1 (HeldValues.closed_range lowerClosed upperClosed)
      · exact inductionHypothesis levels.2 fitting.2 upperClosed

theorem level_of_accepted {kind : BoundKind}
    (accepted : Definition.Accepted kind includeFuture definitions)
    (fitting : ∀ definition ∈ definitions, definition.Fitting) :
    ∀ definition ∈ definitions, Level (labelOf definition) := by
  intro definition member
  exact level_labelOf (accepted.wellFormed definition member).named (fitting definition member).name

theorem closed_hash {count : Nat} (parent : Closed table.text)
    (written : hash table count = .ok statements) :
    ∀ statement ∈ statements, Closed statement.text := by
  unfold hash at written
  split at written
  · cases written
  · cases written
    intro statement member
    obtain ⟨remainder, _, rfl⟩ := List.mem_map.mp member
    have label : Closed ("p" ++ remainder.repr) :=
      Text.Closed.append rfl (Text.closed_repr remainder)
    exact closed_text parent label.level (HeldValues.closed_hash count remainder)

theorem closed_monthOfYear (parent : Closed table.text) :
    ∀ statement ∈ monthOfYear table, Closed statement.text := by
  intro statement member
  obtain ⟨month, _, rfl⟩ := List.mem_map.mp member
  have bounds := HeldValues.closed_range (Text.closed_repr month.number)
    (Text.closed_repr (month.number + 1))
  exact closed_text parent month.closed_name.level bounds

theorem closed_calendar {buckets : CalendarBuckets} (parent : Closed table.text)
    (written : calendar table buckets = .ok statements) :
    ∀ statement ∈ statements, Closed statement.text := by
  rw [calendar_eq_flatMap] at written
  cases written
  intro statement member
  obtain ⟨year, _, inside⟩ := List.mem_flatMap.mp member
  have yearClosed := Text.closed_ofInt year
  cases granularity : buckets.granularity with
  | year =>
      rw [granularity] at inside
      rw [List.mem_singleton.mp inside]
      exact closed_text parent yearClosed.level (HeldValues.closed_dates _)
  | yearMonth =>
      rw [granularity] at inside
      obtain ⟨month, _, rfl⟩ := List.mem_map.mp inside
      have label := month.closed_name.append yearClosed
      exact closed_text parent label.level (HeldValues.closed_dates _)

theorem closed_ofLayout (parent : Closed table.text) (closed : ∀ text ∈ layout.texts, Closed text)
    (written : ofLayout table layout = .ok statements) :
    ∀ statement ∈ statements, Closed statement.text := by
  cases layout with
  | range column definitions includeFuture =>
      obtain ⟨accepted, rfl⟩ := range_eq_ok_iff.mp written
      have fitting := accepted.fitting (List.forall_mem_cons.mp closed).2
      have least : Closed minValue := rfl
      exact closed_chain parent (level_of_accepted accepted fitting) fitting least
  | list column definitions =>
      obtain ⟨accepted, rfl⟩ := list_eq_ok_iff.mp written
      have fitting := accepted.fitting (List.forall_mem_cons.mp closed).2
      intro statement member
      obtain ⟨definition, listed, rfl⟩ := List.mem_map.mp member
      have values := HeldValues.closed_list (fitting definition listed).values
      exact closed_text parent (level_of_accepted accepted fitting definition listed) values
  | hash column count => exact closed_hash parent written
  | key count => cases written
  | monthOfYear column =>
      cases written
      exact closed_monthOfYear parent
  | calendar column buckets => exact closed_calendar parent written
  | parentTable column columnType method nullable =>
      cases written
      simp

theorem closed_parentTable {column columnType : String} (named : Closed table.text)
    (columnClosed : Closed column) (typeClosed : Closed columnType) (method : PartitionMethod)
    (nullable : Bool) : Closed (parentTable table column columnType method nullable) := by
  have opening : Closed "CREATE TABLE " := rfl
  have refused : Closed "NOT NULL" := rfl
  have word : Closed method.word := by cases method <;> rfl
  have dividing : Closed "PARTITION BY " := rfl
  have declaration := (((Fragments.complete_ofHead columnClosed).push typeClosed).pushIf refused
    (!nullable)).closed_text
  have enclosed {text : String} (inner : Closed text) : Closed (" (" ++ text ++ ")") :=
    inner.between rfl rfl
  have head := Fragments.complete_ofHead ((opening.append named).append (enclosed declaration))
  have statement := (head.push ((dividing.append word).append (enclosed columnClosed))).closed_text
  simpa only [parentTable, String.append_assoc] using statement

end PartitionOf

end Ddl

namespace Strategy

open Ddl

variable {strategy : Strategy} {table : TableName} {layout : Layout} {texts : List String}

theorem closed_render (named : Closed table.text) (closed : ∀ text ∈ layout.texts, Closed text)
    (rendered : strategy.render table layout = .ok texts) : ∀ text ∈ texts, Closed text := by
  cases strategy with
  | alterTable =>
      simp only [render] at rendered
      obtain ⟨statements, written, rfl⟩ := Failure.exists_of_map_eq_ok rendered
      rw [List.forall_mem_map]
      exact AlterTable.closed_ofLayout named closed written
  | partitionOf =>
      cases layout with
      | parentTable column columnType method nullable =>
          cases rendered
          rw [List.forall_mem_singleton]
          apply PartitionOf.closed_parentTable named
          · exact closed column List.mem_cons_self
          · exact closed columnType (by simp [Layout.texts])
      | _ =>
          simp only [render] at rendered
          obtain ⟨statements, written, rfl⟩ := Failure.exists_of_map_eq_ok rendered
          rw [List.forall_mem_map]
          exact PartitionOf.closed_ofLayout named closed written

/-- Whatever texts a layout is given with, if their punctuation is complete, so is that of every
statement. -/
theorem render_punctuated
    (given : ∀ text ∈ table.text :: layout.texts,
      Text.Punctuated text ∧ ¬ Text.CommaBefore none text.toList)
    (rendered : strategy.render table layout = .ok texts) :
    ∀ text ∈ texts, Text.Punctuated text := by
  simp only [← Text.closed_iff] at given
  obtain ⟨named, closed⟩ := List.forall_mem_cons.mp given
  intro text member
  exact (Text.closed_iff.mp (closed_render named closed rendered text member)).1

/-- A name that ends in a comma before its backquote, and values with commas of their own. -/
def pairedList : List Definition :=
  [.list "\x60north, \x60" ["(1, 2)", " least(3, 4)"]]

theorem pairedList_punctuated :
    (∀ text ∈ TableName.text ⟨some "app", "events"⟩ :: (Layout.list "id" pairedList).texts,
      Text.Punctuated text ∧ ¬ Text.CommaBefore none text.toList) ∧
    Strategy.partitionOf.render ⟨some "app", "events"⟩ (.list "id" pairedList) =
      .ok ["CREATE TABLE app.events_north,  PARTITION OF app.events " ++
        "FOR VALUES IN ((1, 2),  least(3, 4))"] ∧
    ∀ text ∈ ["CREATE TABLE app.events_north,  PARTITION OF app.events " ++
        "FOR VALUES IN ((1, 2),  least(3, 4))"], Text.Punctuated text := by
  have given : ∀ text ∈ TableName.text ⟨some "app", "events"⟩ ::
      (Layout.list "id" pairedList).texts,
        Text.Punctuated text ∧ ¬ Text.CommaBefore none text.toList := by
    simp only [← Text.closed_iff]
    decide
  have rendered : Strategy.partitionOf.render ⟨some "app", "events"⟩ (.list "id" pairedList) =
      .ok ["CREATE TABLE app.events_north,  PARTITION OF app.events " ++
        "FOR VALUES IN ((1, 2),  least(3, 4))"] := rfl
  exact ⟨given, rendered, render_punctuated given rendered⟩

end Strategy

end TablePartitioning
