import TablePartitioning.Proofs.Ddl.CalendarTiling
import TablePartitioning.Proofs.Ddl.RangeDefinitions
import TablePartitioning.Proofs.Text.PlainNames

/-!
# Names of calendar partitions

Every name of a calendar layout but those of the future ends in its year.  In place and by years
the names are looked at before the statement is written; on the other three ways from a span to
statements they are not.  The four ways agree, and name identifiers only, for those spans that
begin with no year before zero.
-/

namespace TablePartitioning

theorem Month.plain_name (month : Month) :
    month.name.toList.all Identifier.isPlainChar = true := by
  cases month <;> decide

namespace Ddl

/-- The name of a partition and those of its subpartitions. -/
def PartitionClause.names (clause : PartitionClause) : List String :=
  clause.definition.name :: clause.subpartitions

/-- The names of the partitions and subpartitions of a statement. -/
def AlterTable.names (statement : AlterTable) : List String :=
  match statement.body with
  | .clauses list => list.flatMap PartitionClause.names
  | .count _ => []

namespace AlterTable

/-- The name of the partition of a year. -/
def yearName (year : Int) : String :=
  "year" ++ Text.Numeral.ofInt year

theorem isValid_yearName (year : Int) : Identifier.isValid (yearName year) = decide (0 ≤ year) := by
  apply Identifier.isValid_append_ofInt
  decide

/-! ## The definitions of years -/

theorem toLower_ne_of_mem_yearBound {year : Int} {timestamp : Bool} {c : Char}
    (member : c ∈ (yearBound year timestamp).toList) : c.toLower ≠ 'v' := by
  have numeral : c ∈ (Text.Numeral.ofInt (year + 1)).toList → c.toLower ≠ 'v' := by
    intro inNumber
    rcases Text.Numeral.mem_ofInt inNumber with digit | rfl
    · exact Definition.toLower_ne_of_isDigit digit
    · decide
  have opening : "UNIX_TIMESTAMP('".toList.all (fun c => c.toLower ≠ 'v') = true := by decide
  have closing : "-01-01 00:00:00')".toList.all (fun c => c.toLower ≠ 'v') = true := by decide
  cases timestamp with
  | false => exact numeral member
  | true =>
      simp only [yearBound, if_true, String.toList_append, List.mem_append] at member
      rcases member with (inOpening | inNumber) | inClosing
      · exact of_decide_eq_true (List.all_eq_true.mp opening c inOpening)
      · exact numeral inNumber
      · exact of_decide_eq_true (List.all_eq_true.mp closing c inClosing)

/-- Neither numerals nor the call around them have the `v` of `MAXVALUE`. -/
theorem isMaxValue_yearBound (year : Int) (timestamp : Bool) :
    Definition.isMaxValue (yearBound year timestamp) = false := by
  apply Definition.isMaxValue_eq_false
  intro c member
  rw [Text.toList_trim] at member
  exact toLower_ne_of_mem_yearBound (Text.mem_of_mem_trimWhere member)

theorem isBlankText_yearBound (year : Int) (timestamp : Bool) :
    Text.isBlankText (yearBound year timestamp) = false := by
  obtain ⟨digit, member, isDigit⟩ := Text.Numeral.exists_isDigit_ofInt (year + 1)
  have inside : digit ∈ (yearBound year timestamp).toList := by
    cases timestamp with
    | false => exact member
    | true => simp [yearBound, member]
  rw [Text.isBlankText, List.all_eq_false]
  refine ⟨digit, inside, ?_⟩
  rw [Text.isBlank_of_isDigit isDigit]
  exact Bool.false_ne_true

theorem futureFault?_yearDefinition (timestamp : Bool) (year : Int) :
    (yearDefinition timestamp year).futureFault? = none := by
  apply Definition.futureFault?_eq_none_iff.mpr
  constructor
  · intro same
    -- Trimming takes only backquotes away, and `future` has no `y`.
    have letter : 'y' ∈ (Identifier.unquoted (yearName year)).toList := by
      rw [Identifier.unquoted, String.toList_ofList]
      apply Text.mem_trimWhere_of_kept
      · simp [yearName]
      · decide
    have missing : 'y' ∉ Definition.future.name.toList := by decide
    rw [← same] at missing
    exact missing letter
  · exact isMaxValue_yearBound year timestamp

theorem fault?_yearDefinition (timestamp : Bool) (year : Int) :
    (yearDefinition timestamp year).fault? .range =
      if 0 ≤ year then none else some (.invalidName (yearName year)) := by
  have named := isValid_yearName year
  split
  · next nonneg =>
      rw [decide_eq_true nonneg] at named
      exact Definition.fault?_range_eq_none named (isBlankText_yearBound year timestamp)
  · next negative =>
      rw [decide_eq_false negative] at named
      have name : (yearDefinition timestamp year).name = yearName year := rfl
      simp [Definition.fault?, name, named]

/-- The years of a span are refused for the first of them or not at all. -/
theorem rangeFault?_years (timestamp includeFuture : Bool) (span : YearSpan) :
    Definition.rangeFault? (span.years.map (yearDefinition timestamp)) includeFuture =
      if 0 ≤ span.first then none else some (.invalidName (yearName span.first)) := by
  obtain ⟨later, years⟩ := span.years_eq_cons
  rw [Definition.rangeFault?_of_standing includeFuture]
  case nonempty => simp [years]
  case standing =>
    intro definition member
    obtain ⟨year, _, rfl⟩ := List.mem_map.mp member
    exact futureFault?_yearDefinition timestamp year
  rw [List.findSome?_map]
  simp only [Function.comp_def, fault?_yearDefinition]
  split
  · next started =>
      apply List.findSome?_eq_none_iff.mpr
      intro year member
      rw [if_pos (span.forall_nonneg_iff.mpr started year member)]
  · next negative => rw [years, List.findSome?_cons, if_neg negative]

/-! ## The statement of a span -/

variable (table : TableName) (column : String) (span : YearSpan) (includeFuture timestamp : Bool)

theorem calendar_year :
    calendar table column ⟨span, .year, includeFuture, timestamp⟩ =
      if 0 ≤ span.first then
        .ok ⟨table, "RANGE(" ++ yearExpression column timestamp ++ ")", none,
          .clauses (clausesOf (span.years.map (yearDefinition timestamp)) includeFuture)⟩
      else .error (.invalidDefinition (.invalidName (yearName span.first))) := by
  simp only [calendar, range, rangeFault?_years]
  by_cases started : 0 ≤ span.first
  · simp [started]
  · simp [started]

/-- The names that a year has in the statement. -/
def namesOfYear (granularity : Granularity) (year : Int) : List String :=
  match granularity with
  | .year => [yearName year]
  | .yearMonth =>
      yearName year ::
        Month.remainderOrder.map fun month => month.name ++ Text.Numeral.ofInt year

/-- The names that the years after the span have in the statement. -/
def namesOfFuture (granularity : Granularity) : List String :=
  match granularity with
  | .year => [Definition.future.name]
  | .yearMonth => Definition.future.name :: futureMonthClause.subpartitions

theorem names_calendar {table : TableName} {column : String} {buckets : CalendarBuckets}
    {statement : AlterTable} (rendered : calendar table column buckets = .ok statement) :
    statement.names = buckets.span.years.flatMap (namesOfYear buckets.granularity) ++
      if buckets.includeFuture then namesOfFuture buckets.granularity else [] := by
  obtain ⟨span, granularity, includeFuture, timestamp⟩ := buckets
  cases granularity with
  | year =>
      rw [calendar_year] at rendered
      split at rendered
      · cases rendered
        simp only [names, clausesOf]
        rw [List.map_append, List.flatMap_append, List.map_map, List.flatMap_map]
        cases includeFuture with
        | false => rfl
        | true => rfl
      · cases rendered
  | yearMonth =>
      cases rendered
      simp only [names]
      rw [List.flatMap_append, List.flatMap_map]
      cases includeFuture with
      | false => rfl
      | true => rfl

theorem isValid_of_mem_namesOfYear {granularity : Granularity} {year : Int} {name : String}
    (member : name ∈ namesOfYear granularity year) :
    Identifier.isValid name = decide (0 ≤ year) := by
  cases granularity with
  | year =>
      rw [List.mem_singleton.mp member]
      exact isValid_yearName year
  | yearMonth =>
      rcases List.mem_cons.mp member with rfl | ofMonth
      · exact isValid_yearName year
      · obtain ⟨month, _, rfl⟩ := List.mem_map.mp ofMonth
        exact Identifier.isValid_append_ofInt month.plain_name year

theorem isValid_of_mem_namesOfFuture {granularity : Granularity} {name : String}
    (member : name ∈ namesOfFuture granularity) : Identifier.isValid name = true := by
  have identifiers : (namesOfFuture granularity).all Identifier.isValid = true := by
    cases granularity <;> decide
  exact List.all_eq_true.mp identifiers name member

end AlterTable

namespace PartitionOf

theorem isValid_label_of_mem {granularity : Granularity} {table : TableName} {year : Int}
    {statement : PartitionOf} (member : statement ∈ statementsOfYear granularity table year) :
    Identifier.isValid statement.label = decide (0 ≤ year) := by
  cases granularity with
  | year =>
      have empty : "".toList.all Identifier.isPlainChar = true := by decide
      have numeral := Identifier.isValid_append_ofInt empty year
      rw [String.empty_append] at numeral
      rw [List.mem_singleton.mp member]
      exact numeral
  | yearMonth =>
      obtain ⟨month, _, rfl⟩ := List.mem_map.mp member
      exact Identifier.isValid_append_ofInt month.plain_name year

end PartitionOf

/-! ## The four ways from a span to statements -/

variable (table : TableName) (column : String) (span : YearSpan) (includeFuture timestamp : Bool)

theorem isOk_render_calendar (strategy : Strategy) (granularity : Granularity) :
    (strategy.render table
        (.calendar column ⟨span, granularity, includeFuture, timestamp⟩)).isOk =
      match strategy, granularity with
      | .alterTable, .year => decide (0 ≤ span.first)
      | _, _ => true := by
  cases strategy with
  | alterTable =>
      cases granularity with
      | year =>
          simp only [Strategy.render, AlterTable.ofLayout, AlterTable.calendar_year]
          by_cases started : 0 ≤ span.first
          · simp [started, Except.map, Except.isOk, Except.toBool]
          · simp [started, Except.map, Except.isOk, Except.toBool]
      | yearMonth => rfl
  | partitionOf =>
      have rendered := (tiles_span table column
        ⟨span, granularity, includeFuture, timestamp⟩).rendered
      rw [rendered]
      rfl

/-- The ways from a span to statements, in both dialects and granularities, succeed together, and
what they write is named by identifiers. -/
structure NamesIdentifiers : Prop where
  alike : ∀ (first second : Strategy) (firstGranularity secondGranularity : Granularity),
    (first.render table
        (.calendar column ⟨span, firstGranularity, includeFuture, timestamp⟩)).isOk =
      (second.render table
        (.calendar column ⟨span, secondGranularity, includeFuture, timestamp⟩)).isOk
  inPlace : ∀ granularity statement,
    AlterTable.calendar table column ⟨span, granularity, includeFuture, timestamp⟩ =
        .ok statement →
      ∀ name ∈ statement.names, Identifier.isValid name = true
  apart : ∀ granularity statements,
    PartitionOf.calendar table ⟨span, granularity, includeFuture, timestamp⟩ =
        .ok statements →
      ∀ statement ∈ statements, Identifier.isValid statement.label = true

/-- The years before zero have no names, and only one of the four ways refuses them. -/
theorem calendar_namesIdentifiers_iff :
    NamesIdentifiers table column span includeFuture timestamp ↔ 0 ≤ span.first := by
  constructor
  · intro names
    have same := names.alike .alterTable .alterTable .year .yearMonth
    rw [isOk_render_calendar, isOk_render_calendar] at same
    exact of_decide_eq_true same
  · intro started
    have nonneg := span.forall_nonneg_iff.mpr started
    constructor
    case alike =>
      have succeeds (strategy : Strategy) (granularity : Granularity) :
          (strategy.render table
            (.calendar column ⟨span, granularity, includeFuture, timestamp⟩)).isOk = true := by
        rw [isOk_render_calendar]
        split
        · exact decide_eq_true started
        · rfl
      intro first second firstGranularity secondGranularity
      rw [succeeds, succeeds]
    case inPlace =>
      intro granularity statement rendered name member
      rw [AlterTable.names_calendar rendered] at member
      rcases List.mem_append.mp member with ofSpan | ofFuture
      · obtain ⟨year, inSpan, ofYear⟩ := List.mem_flatMap.mp ofSpan
        rw [AlterTable.isValid_of_mem_namesOfYear ofYear]
        exact decide_eq_true (nonneg year inSpan)
      · cases includeFuture with
        | false => cases ofFuture
        | true => exact AlterTable.isValid_of_mem_namesOfFuture ofFuture
    case apart =>
      intro granularity statements rendered statement member
      rw [PartitionOf.calendar_eq_flatMap] at rendered
      cases rendered
      obtain ⟨year, inSpan, ofYear⟩ := List.mem_flatMap.mp member
      rw [PartitionOf.isValid_label_of_mem ofYear]
      exact decide_eq_true (nonneg year inSpan)

/-- The fifth year before the year zero. -/
def fifthYearBefore : YearSpan :=
  ⟨-5, -5, by decide, by decide, by decide⟩

/-- By years the span is refused in place; divided by months as well, it is written. -/
theorem fifthYearBefore_not_namesIdentifiers :
    YearSpan.between (-5) (-5) = .ok fifthYearBefore ∧
      ¬ NamesIdentifiers ⟨none, "events"⟩ "created_at" fifthYearBefore true false := by
  constructor
  · rfl
  · intro names
    have same := names.alike .alterTable .alterTable .year .yearMonth
    cases same

end Ddl

end TablePartitioning
