import TablePartitioning.Proofs.Ddl.DefinitionRules
import TablePartitioning.Proofs.Ddl.RangeRouting
import TablePartitioning.Proofs.Ddl.StatementText

/-!
# Reading clauses back

The partitions of a statement that divides a table in place stand between parentheses, with commas
between them.  Names may hold commas, parentheses and keywords between backquotes, so that the list
cannot be cut at its commas: it is read from the left, name by name.  The values of a definition end
at the first closing parenthesis and are cut at their commas, where they hold neither themselves.
-/

namespace TablePartitioning

namespace Ddl

namespace Clauses

/-! ## A reader of clauses -/

/-- What follows a word that the characters start with. -/
def after? : List Char → List Char → Option (List Char)
  | [], chars => some chars
  | _ :: _, [] => none
  | expected :: word, c :: chars => if c = expected then after? word chars else none

/-- A name, between backquotes or of plain characters, and what follows it. -/
def name? : List Char → Option (String × List Char)
  | [] => none
  | first :: rest =>
      if first = Identifier.backquote then
        (Text.splitCharsOnce? Identifier.backquote rest).map fun (inner, after) =>
          (Identifier.quote (String.ofList inner), after)
      else
        some (String.ofList ((first :: rest).takeWhile Identifier.isPlainChar),
          (first :: rest).dropWhile Identifier.isPlainChar)

/-- What stands between the name of a definition and its values. -/
def opening : BoundKind → String
  | .range => " VALUES LESS THAN ("
  | .list => " VALUES IN ("

/-- The kind of a definition, and what follows the parenthesis that opens its values. -/
def kind? (chars : List Char) : Option (BoundKind × List Char) :=
  match after? (opening .range).toList chars with
  | some rest => some (.range, rest)
  | none => (after? (opening .list).toList chars).map fun rest => (.list, rest)

/-- Values with a comma and a blank between them. -/
def valuesOf (chars : List Char) : List String :=
  match chars.splitOn ',' with
  | [] => []
  | first :: rest => String.ofList first :: rest.map fun value => String.ofList value.tail

/-- A definition, and what follows the parenthesis that closes its values. -/
def definition? (chars : List Char) : Option (Definition × List Char) := do
  let named ← after? "PARTITION ".toList chars
  let (name, kinded) ← name? named
  let (kind, valued) ← kind? kinded
  let (values, rest) ← Text.splitCharsOnce? ')' valued
  some (⟨name, kind, valuesOf values⟩, rest)

/-- Definitions up to the parenthesis that closes the list. -/
def definitions? (chars : List Char) : Option (List Definition) :=
  match definition? chars with
  | none => none
  | some (definition, rest) =>
      if rest = [')'] then some [definition]
      else
        match after? ", ".toList rest with
        | none => none
        | some more =>
            -- A definition is never empty, so that no list is given up here.
            if more.length < chars.length then (definitions? more).map (definition :: ·)
            else none
termination_by chars.length

/-- The definitions that a text lists between parentheses. -/
def read? (text : String) : Option (List Definition) :=
  (after? ['('] text.toList).bind definitions?

/-! ## Each part, whatever follows it -/

theorem after?_append (word rest : List Char) : after? word (word ++ rest) = some rest := by
  induction word with
  | nil => rfl
  | cons c word inductionHypothesis => simpa [after?] using inductionHypothesis

theorem name?_append {name : String} (named : Identifier.Names name) (rest : List Char) :
    name? (name.toList ++ ' ' :: rest) = some (name, ' ' :: rest) := by
  rcases named with plain | ⟨inner, _, absent, rfl⟩
  · have allowed : ∀ c ∈ name.toList, Identifier.isPlainChar c = true := by
      intro c member
      exact Identifier.isPlainChar_iff.mpr (plain.allowed c member)
    have blank : Identifier.isPlainChar ' ' = false := by decide
    cases chars : name.toList with
    | nil => exact absurd (String.toList_eq_nil_iff.mp chars) plain.nonempty
    | cons first others =>
        have different : first ≠ Identifier.backquote := by
          rintro rfl
          exact plain.backquote_not_mem (by simp [chars])
        rw [List.cons_append, name?, if_neg different, ← List.cons_append, ← chars,
          List.takeWhile_append_of_pos allowed, List.dropWhile_append_of_pos allowed]
        simp [blank]
  · have inside : Text.splitCharsOnce? Identifier.backquote
        (inner.toList ++ Identifier.backquote :: ' ' :: rest) =
          some (inner.toList, ' ' :: rest) :=
      (Text.splitCharsOnce?_eq_some_iff _ _ _ _).mpr ⟨absent, rfl⟩
    rw [Identifier.toList_quote, List.cons_append, List.append_assoc, List.singleton_append, name?,
      if_pos rfl, inside]
    simp

theorem kind?_append (kind : BoundKind) (rest : List Char) :
    kind? ((opening kind).toList ++ rest) = some (kind, rest) := by
  cases kind with
  | range => rw [kind?, after?_append]
  | list =>
      have different : after? (opening .range).toList ((opening .list).toList ++ rest) = none := rfl
      rw [kind?, different, after?_append]
      rfl

/-- Every value but the first has the blank after the comma in front of it. -/
theorem toList_intercalate_values (first : String) (rest : List String) :
    (", ".intercalate (first :: rest)).toList =
      [','].intercalate (first.toList :: rest.map fun value => ' ' :: value.toList) := by
  induction rest generalizing first with
  | nil => simp
  | cons second rest inductionHypothesis =>
      have separator : ", ".toList = [',', ' '] := by decide
      rw [String.intercalate_cons_cons, String.toList_append, String.toList_append,
        inductionHypothesis, separator]
      cases rest with
      | nil => simp
      | cons third rest => simp

theorem valuesOf_intercalate {values : List String} (nonempty : values ≠ [])
    (apart : ∀ value ∈ values, ',' ∉ value.toList) :
    valuesOf (", ".intercalate values).toList = values := by
  cases values with
  | nil => exact absurd rfl nonempty
  | cons first rest =>
      have split : ([','].intercalate
          (first.toList :: rest.map fun value => ' ' :: value.toList)).splitOn ',' =
            first.toList :: rest.map fun value => ' ' :: value.toList := by
        apply List.splitOn_intercalate
        case hls => simp
        case hx =>
          intro piece member
          rcases List.mem_cons.mp member with rfl | later
          · exact apart first List.mem_cons_self
          · obtain ⟨value, inRest, rfl⟩ := List.mem_map.mp later
            simpa using apart value (List.mem_cons_of_mem first inRest)
      rw [toList_intercalate_values, valuesOf, split]
      simp [Function.comp_def]

/-! ## Definitions -/

/-- A definition whose clause can be told from what follows it.  An opening parenthesis in a value
does no harm. -/
structure Readable (definition : Definition) : Prop where
  named : Identifier.Names definition.name
  valued : definition.values ≠ []
  separable : ∀ value ∈ definition.values, ',' ∉ value.toList ∧ ')' ∉ value.toList

theorem clause_eq (definition : Definition) :
    definition.clause = "PARTITION " ++ definition.name ++ opening definition.kind ++
      ", ".intercalate definition.values ++ ")" := by
  rcases definition with ⟨name, kind, values⟩
  cases kind with
  | range => rfl
  | list => rfl

theorem not_mem_intercalate {values : List String}
    (separable : ∀ value ∈ values, ',' ∉ value.toList ∧ ')' ∉ value.toList) :
    ')' ∉ (", ".intercalate values).toList := by
  induction values with
  | nil => simp
  | cons first rest inductionHypothesis =>
      have early := (separable first List.mem_cons_self).2
      have late := inductionHypothesis fun value member =>
        separable value (List.mem_cons_of_mem first member)
      cases rest with
      | nil => simpa using early
      | cons second others =>
          have between : ')' ∉ ", ".toList := by decide
          rw [String.intercalate_cons_cons, String.toList_append, String.toList_append,
            List.mem_append, List.mem_append, not_or, not_or]
          exact ⟨⟨early, between⟩, late⟩

/-- A clause is read up to its last parenthesis. -/
theorem definition?_append {definition : Definition} (readable : Readable definition)
    (rest : List Char) :
    definition? (definition.clause.toList ++ rest) = some (definition, rest) := by
  have inside : Text.splitCharsOnce? ')'
      ((", ".intercalate definition.values).toList ++ ')' :: rest) =
        some ((", ".intercalate definition.values).toList, rest) :=
    (Text.splitCharsOnce?_eq_some_iff _ _ _ _).mpr ⟨not_mem_intercalate readable.separable, rfl⟩
  have values := valuesOf_intercalate readable.valued fun value member =>
    (readable.separable value member).1
  have blank : (opening definition.kind).toList = ' ' :: (opening definition.kind).toList.tail := by
    cases definition.kind with
    | range => rfl
    | list => rfl
  have chars : definition.clause.toList ++ rest = "PARTITION ".toList ++ (definition.name.toList ++
      ((opening definition.kind).toList ++
        ((", ".intercalate definition.values).toList ++ ')' :: rest))) := by
    have closing : ")".toList = [')'] := by decide
    simp only [clause_eq, String.toList_append, closing, List.append_assoc, List.singleton_append]
  have named := name?_append readable.named ((opening definition.kind).toList.tail ++
    ((", ".intercalate definition.values).toList ++ ')' :: rest))
  rw [← List.cons_append, ← blank] at named
  rw [definition?, chars, after?_append]
  simp only [Option.bind_eq_bind, Option.bind_some, named, kind?_append, inside, values]

/-- A list of clauses is read up to its last parenthesis. -/
theorem definitions?_intercalate {definitions : List Definition} (nonempty : definitions ≠ [])
    (readable : ∀ definition ∈ definitions, Readable definition) :
    definitions? ((", ".intercalate (definitions.map Definition.clause)).toList ++ [')']) =
      some definitions := by
  induction definitions with
  | nil => exact absurd rfl nonempty
  | cons definition rest inductionHypothesis =>
      have first := definition?_append (readable definition List.mem_cons_self)
      cases rest with
      | nil =>
          rw [definitions?, List.map_singleton, String.intercalate_singleton, first]
          rfl
      | cons second others =>
          have later := inductionHypothesis (by simp) fun other member =>
            readable other (List.mem_cons_of_mem definition member)
          have chars : (", ".intercalate
              ((definition :: second :: others).map Definition.clause)).toList ++ [')'] =
                definition.clause.toList ++ (", ".toList ++
                  ((", ".intercalate ((second :: others).map Definition.clause)).toList ++
                    [')'])) := by
            simp only [List.map_cons, String.intercalate_cons_cons, String.toList_append,
              List.append_assoc]
          generalize (", ".intercalate ((second :: others).map Definition.clause)).toList ++
            [')'] = more at chars later
          have goesOn : ", ".toList ++ more ≠ [')'] := by simp
          have shorter : more.length <
              (definition.clause.toList ++ (", ".toList ++ more)).length := by
            simp
            omega
          rw [chars, definitions?, first]
          simp only [if_neg goesOn, after?_append, if_pos shorter, later]
          rfl

theorem read?_text {definitions : List Definition} (nonempty : definitions ≠ [])
    (readable : ∀ definition ∈ definitions, Readable definition) :
    read? (ClauseList.mk (definitions.map Definition.clause)).text = some definitions := by
  have chars : (ClauseList.mk (definitions.map Definition.clause)).text.toList =
      ['('] ++ ((", ".intercalate (definitions.map Definition.clause)).toList ++ [')']) := by
    rw [ClauseList.text, String.toList_append, String.toList_append, List.append_assoc]
    rfl
  rw [read?, chars, after?_append]
  exact definitions?_intercalate nonempty readable

end Clauses

/-! ## Statements -/

namespace AlterTable

/-- A layout that lists its partitions, with their kind and with all of them in order: those of the
layout, and the partition `future` after them where it is wanted. -/
inductive Lists (column : String) : Layout → BoundKind → List Definition → Prop
  | range (definitions : List Definition) (includeFuture : Bool) :
      Lists column (.range column definitions includeFuture) .range
        (definitions ++ if includeFuture then [⟨"future", .range, ["MAXVALUE"]⟩] else [])
  | list (definitions : List Definition) :
      Lists column (.list column definitions) .list definitions

variable {table : TableName} {column : String} {layout : Layout} {kind : BoundKind}
  {entries : List Definition} {texts : List String}

theorem text_clauses (entries : List Definition) :
    (PartitionBody.clauses (entries.map PartitionClause.ofDefinition)).text =
      (ClauseList.mk (entries.map Definition.clause)).text := by
  rw [PartitionBody.text, List.map_map]
  rfl

/-- What is written for a layout that lists its partitions. -/
theorem Lists.written (lists : Lists column layout kind entries)
    (rendered : Strategy.render .alterTable table layout = .ok texts) :
    texts = ["ALTER TABLE " ++ table.text ++ " PARTITION BY " ++
        (kind.word ++ "(" ++ column ++ ")") ++ " " ++
        (ClauseList.mk (entries.map Definition.clause)).text] ∧
      entries ≠ [] ∧ ∀ entry ∈ entries, entry.WellFormed kind := by
  cases lists with
  | range definitions includeFuture =>
      obtain ⟨accepted, rfl⟩ := render_range_eq_ok_iff.mp rendered
      refine ⟨?_, ?_, ?_⟩
      · rw [rangeTexts, text_of_undivided, clausesOf, text_clauses]
        rfl
      · simp [accepted.nonempty]
      · apply forall_mem_append_ite accepted.wellFormed
        exact Definition.fault?_eq_none_iff.mp (by decide)
  | list definitions =>
      obtain ⟨accepted, rfl⟩ := render_list_eq_ok_iff.mp rendered
      refine ⟨?_, accepted.nonempty, accepted.wellFormed⟩
      rw [listTexts, text_of_undivided, clausesOf, if_neg Bool.false_ne_true, List.append_nil,
        text_clauses]
      rfl

/-- Values that can be told from each other and from the end of their clause. -/
def Separable (entries : List Definition) : Prop :=
  ∀ entry ∈ entries, ∀ value ∈ entry.values,
    ',' ∉ value.toList ∧ '(' ∉ value.toList ∧ ')' ∉ value.toList

/-- What the statement of a layout tells of it: its list of clauses is read back to the partitions,
and no other layout on the same column has the same statement. -/
structure ReadsBack (table : TableName) (column : String) (kind : BoundKind)
    (entries : List Definition) (texts : List String) : Prop where
  written : ∃ clauses,
    texts = ["ALTER TABLE " ++ table.text ++ " PARTITION BY " ++
      (kind.word ++ "(" ++ column ++ ")") ++ " " ++ clauses] ∧
    Clauses.read? clauses = some entries
  nonempty : entries ≠ []
  kinds : ∀ entry ∈ entries, entry.kind = kind
  alone : ∀ {other : Layout} {otherKind : BoundKind} {otherEntries : List Definition},
    Lists column other otherKind otherEntries → Separable otherEntries →
      Strategy.render .alterTable table other = .ok texts →
        otherKind = kind ∧ otherEntries = entries

theorem Lists.read?_written (lists : Lists column layout kind entries)
    (separable : Separable entries)
    (rendered : Strategy.render .alterTable table layout = .ok texts) :
    Clauses.read? (ClauseList.mk (entries.map Definition.clause)).text = some entries := by
  obtain ⟨_, nonempty, wellFormed⟩ := lists.written rendered
  apply Clauses.read?_text nonempty
  intro entry member
  have valued : entry.values ≠ [] := by
    have values := (wellFormed entry member).valued
    cases kind with
    | range =>
        obtain ⟨bound, single, _⟩ := values
        simp [single]
    | list => exact values.1
  refine ⟨(wellFormed entry member).named, valued, ?_⟩
  intro value inside
  have apart := separable entry member value inside
  exact ⟨apart.1, apart.2.2⟩

/-- The words of the two kinds differ in their first letters. -/
theorem kind_and_clauses_of_eq {first second : BoundKind} {early late : String}
    (same : "ALTER TABLE " ++ table.text ++ " PARTITION BY " ++
        (first.word ++ "(" ++ column ++ ")") ++ " " ++ early =
      "ALTER TABLE " ++ table.text ++ " PARTITION BY " ++
        (second.word ++ "(" ++ column ++ ")") ++ " " ++ late) :
    first = second ∧ early = late := by
  have kinds : first = second := by
    have rest := same
    simp only [String.append_assoc] at rest
    have words := (String.append_right_inj _).mp <| (String.append_right_inj _).mp <|
      (String.append_right_inj _).mp rest
    have letters := congrArg (fun text : String => text.toList.head?) words
    cases first with
    | range =>
        cases second with
        | range => rfl
        | list => simp [BoundKind.word] at letters
    | list =>
        cases second with
        | range => simp [BoundKind.word] at letters
        | list => rfl
  subst kinds
  exact ⟨rfl, (String.append_right_inj _).mp same⟩

/-- Whatever stands in names and values, as long as values can be told from each other, a statement
says which partitions it lists. -/
theorem lists_readsBack (lists : Lists column layout kind entries) (separable : Separable entries)
    (rendered : Strategy.render .alterTable table layout = .ok texts) :
    ReadsBack table column kind entries texts := by
  obtain ⟨written, nonempty, wellFormed⟩ := lists.written rendered
  have read := lists.read?_written separable rendered
  constructor
  case written => exact ⟨_, written, read⟩
  case nonempty => exact nonempty
  case kinds =>
    intro entry member
    exact (wellFormed entry member).kind
  case alone =>
    intro other otherKind otherEntries otherLists otherSeparable otherRendered
    have otherRead := otherLists.read?_written otherSeparable otherRendered
    have same := written.symm.trans (otherLists.written otherRendered).1
    obtain ⟨kinds, clauses⟩ := kind_and_clauses_of_eq (List.singleton_inj.mp same)
    rw [← clauses, read] at otherRead
    exact ⟨kinds.symm, (Option.some.inj otherRead).symm⟩

/-- A name that imitates the end of its clause and the start of another. -/
def imitatingRanges : List Definition :=
  [.range "\x60a VALUES IN (1), PARTITION b\x60" " 10 "]

theorem imitatingRanges_readsBack :
    Lists "id" (.range "id" imitatingRanges true) .range
        (imitatingRanges ++ [⟨"future", .range, ["MAXVALUE"]⟩]) ∧
      Separable (imitatingRanges ++ [⟨"future", .range, ["MAXVALUE"]⟩]) ∧
      Strategy.render .alterTable ⟨none, "events"⟩ (.range "id" imitatingRanges true) =
        .ok ["ALTER TABLE events PARTITION BY RANGE(id) (PARTITION " ++
          "\x60a VALUES IN (1), PARTITION b\x60 VALUES LESS THAN ( 10 ), PARTITION " ++
          "future VALUES LESS THAN (MAXVALUE))"] ∧
      ReadsBack ⟨none, "events"⟩ "id" .range
        (imitatingRanges ++ [⟨"future", .range, ["MAXVALUE"]⟩])
        ["ALTER TABLE events PARTITION BY RANGE(id) (PARTITION " ++
          "\x60a VALUES IN (1), PARTITION b\x60 VALUES LESS THAN ( 10 ), PARTITION " ++
          "future VALUES LESS THAN (MAXVALUE))"] := by
  have lists : Lists "id" (.range "id" imitatingRanges true) .range
    (imitatingRanges ++ [⟨"future", .range, ["MAXVALUE"]⟩]) := .range imitatingRanges true
  have separable : Separable (imitatingRanges ++ [⟨"future", .range, ["MAXVALUE"]⟩]) := by
    simp [Separable, imitatingRanges, Definition.range]
  have rendered :
      Strategy.render .alterTable ⟨none, "events"⟩ (.range "id" imitatingRanges true) =
        .ok ["ALTER TABLE events PARTITION BY RANGE(id) (PARTITION " ++
          "\x60a VALUES IN (1), PARTITION b\x60 VALUES LESS THAN ( 10 ), PARTITION " ++
          "future VALUES LESS THAN (MAXVALUE))"] := rfl
  exact ⟨lists, separable, rendered, lists_readsBack lists separable rendered⟩

end AlterTable

end Ddl

end TablePartitioning
