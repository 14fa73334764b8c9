import TablePartitioning.Ddl.Strategy
import TablePartitioning.Proofs.Ddl.CalendarPartitions

/-!
# Routing by the calendar in both dialects

Where a table is divided in place, a row goes to the first partition whose bound lies above the
year of its day, and there to the subpartition at the remainder of its month.  `RoutesAlike` says
that this is the partition of its own that holds the day in the other dialect; the two lists of
partitions are only compared through the years and months of the span.
-/

namespace TablePartitioning

/-- Whether the upper bound of a definition lies above a value. -/
def Definition.exceeds (definition : Definition) (value : Int) : Bool :=
  match definition.bound? with
  | some bound =>
      decide (bound = maxValue) ||
        (Text.Numeral.integer? bound).any fun limit => decide (value < limit)
  | none => false

/-- What divides the partitions of years further, where anything does. -/
def Granularity.dividing (granularity : Granularity) (divider : Divider) : Option Divider :=
  match granularity with
  | .year => none
  | .yearMonth => some divider

namespace Ddl

/-- A partition that rows go to, with a subpartition where it is divided. -/
structure Place where
  partition : String
  subpartition : Option String
deriving DecidableEq

/-- The place of a day in a partition: months are numbered by their remainders. -/
def PartitionClause.place (clause : PartitionClause) (day : Day) : Place :=
  ⟨clause.definition.name,
    clause.subpartitions[day.month.number % clause.subpartitions.length]?⟩

namespace AlterTable

/-- The place that a day goes to: the first partition whose bound lies above its year. -/
def route (statement : AlterTable) (day : Day) : Option Place :=
  match statement.body with
  | .clauses list =>
      (list.find? fun clause => clause.definition.exceeds day.year).map fun clause =>
        clause.place day
  | .count _ => none

theorem exceeds_yearDefinition (year value : Int) :
    (yearDefinition false year).exceeds value = decide (value < year + 1) := by
  have numeral : Text.Numeral.ofInt (year + 1) ≠ Definition.maxValue := by
    intro same
    have read := Text.Numeral.integer?_ofInt (year + 1)
    rw [same] at read
    have unread : Text.Numeral.integer? Definition.maxValue = none := by decide
    rw [unread] at read
    cases read
  have bound : (yearDefinition false year).bound? = some (Text.Numeral.ofInt (year + 1)) := rfl
  simp [Definition.exceeds, bound, numeral, Text.Numeral.integer?_ofInt]

theorem exceeds_future (value : Int) : Definition.future.exceeds value = true := rfl

/-! ## The clauses of years -/

variable {span : YearSpan} {clauseOf : Int → PartitionClause} {day : Day}

theorem find?_clauses (ofYears : ∀ year, (clauseOf year).definition = yearDefinition false year)
    (rest : List PartitionClause) :
    (span.years.map clauseOf ++ rest).find? (fun clause => clause.definition.exceeds day.year) =
      ((span.years.find? fun year => day.year < year + 1).map clauseOf).or
        (rest.find? fun clause => clause.definition.exceeds day.year) := by
  rw [List.find?_append, List.find?_map]
  simp only [Function.comp_def, ofYears, exceeds_yearDefinition]

theorem route_within {statement : AlterTable} {rest : List PartitionClause}
    (body : statement.body = .clauses (span.years.map clauseOf ++ rest))
    (ofYears : ∀ year, (clauseOf year).definition = yearDefinition false year)
    (member : day.year ∈ span.years) :
    statement.route day = some ((clauseOf day.year).place day) := by
  rw [route, body]
  simp only [find?_clauses ofYears, span.find?_years member]
  rfl

/-- Beyond the span only a partition without bound can take a day. -/
theorem route_beyond {statement : AlterTable} {future : PartitionClause} {includeFuture : Bool}
    (body : statement.body =
      .clauses (span.years.map clauseOf ++ if includeFuture then [future] else []))
    (ofYears : ∀ year, (clauseOf year).definition = yearDefinition false year)
    (unbounded : future.definition = Definition.future) (beyond : span.last < day.year) :
    statement.route day = if includeFuture then some (future.place day) else none := by
  have exceeds : future.definition.exceeds day.year = true := by
    rw [unbounded]
    exact exceeds_future day.year
  rw [route, body]
  simp only [find?_clauses ofYears, span.find?_years_of_last_lt beyond]
  cases includeFuture with
  | false => rfl
  | true =>
      have found : [future].find? (fun clause => clause.definition.exceeds day.year) =
          some future := List.find?_cons_of_pos exceeds
      simp [found]

/-- In a partition that is divided by months, a day goes to the one of its month. -/
theorem place_of_months {clause : PartitionClause} {name : Month → String}
    (months : clause.subpartitions = Month.remainderOrder.map name) (day : Day) :
    clause.place day = ⟨clause.definition.name, some (name day.month)⟩ := by
  have twelve : Month.remainderOrder.length = 12 := rfl
  rw [PartitionClause.place, months, List.length_map, twelve, List.getElem?_map,
    Month.remainderOrder_getElem?]
  rfl

/-! ## The statement of a calendar layout -/

/-- The clause of a year. -/
def yearClause (granularity : Granularity) (year : Int) : PartitionClause :=
  match granularity with
  | .year => .ofDefinition (yearDefinition false year)
  | .yearMonth => yearMonthClause false year

/-- The clause of all years after the span. -/
def futureClause : Granularity → PartitionClause
  | .year => .ofDefinition Definition.future
  | .yearMonth => futureMonthClause

theorem definition_yearClause (granularity : Granularity) (year : Int) :
    (yearClause granularity year).definition = yearDefinition false year := by
  cases granularity with
  | year => rfl
  | yearMonth => rfl

theorem definition_futureClause (granularity : Granularity) :
    (futureClause granularity).definition = Definition.future := by
  cases granularity with
  | year => rfl
  | yearMonth => rfl

theorem place_yearClause (granularity : Granularity) (day : Day) :
    (yearClause granularity day.year).place day =
      ⟨"year" ++ Text.Numeral.ofInt day.year,
        granularity.dividing (granularity.bucket day)⟩ := by
  cases granularity with
  | year => rfl
  | yearMonth =>
      have months : (yearMonthClause false day.year).subpartitions =
          Month.remainderOrder.map fun month =>
            month.name ++ Text.Numeral.ofInt day.year := rfl
      exact place_of_months months day

theorem place_futureClause (granularity : Granularity) (day : Day) :
    (futureClause granularity).place day =
      ⟨"future", granularity.dividing ("\x60" ++ day.month.name ++ "\x60")⟩ := by
  cases granularity with
  | year => rfl
  | yearMonth =>
      have months : futureMonthClause.subpartitions =
          Month.remainderOrder.map fun month => "\x60" ++ month.name ++ "\x60" := rfl
      exact place_of_months months day

theorem method_yearExpression (column : String) :
    "RANGE(" ++ yearExpression column false ++ ")" = "RANGE(YEAR(" ++ column ++ "))" := by
  apply String.toList_inj.mp
  simp [yearExpression]

theorem calendar_eq {table : TableName} {column : String} {buckets : CalendarBuckets}
    {statement : AlterTable} (dates : buckets.timestamp = false)
    (rendered : calendar table column buckets = .ok statement) :
    statement = ⟨table, "RANGE(YEAR(" ++ column ++ "))",
      buckets.granularity.dividing ("HASH(MONTH(" ++ column ++ "))"),
      .clauses (buckets.span.years.map (yearClause buckets.granularity) ++
        if buckets.includeFuture then [futureClause buckets.granularity] else [])⟩ := by
  unfold calendar at rendered
  cases granularity : buckets.granularity with
  | year =>
      simp only [granularity, dates, range] at rendered
      split at rendered
      · cases rendered
      · rw [method_yearExpression, clausesOf, List.map_append, List.map_map] at rendered
        cases future : buckets.includeFuture with
        | true =>
            rw [future] at rendered
            exact (Except.ok.inj rendered).symm
        | false =>
            rw [future] at rendered
            exact (Except.ok.inj rendered).symm
  | yearMonth =>
      simp only [granularity, dates] at rendered
      rw [method_yearExpression] at rendered
      exact (Except.ok.inj rendered).symm

end AlterTable

/-! ## Both dialects -/

/-- A calendar layout in the statement and the statements of the two dialects: a day goes to
buckets of the same year, or the same month of a year, in both. -/
structure RoutesAlike (table : TableName) (column : String) (buckets : CalendarBuckets)
    (statement : AlterTable) (statements : List PartitionOf) : Prop where
  rendered :
    Strategy.render .alterTable table (.calendar column buckets) = .ok [statement.text] ∧
      Strategy.render .partitionOf table (.calendar column buckets) =
        .ok (statements.map PartitionOf.text)
  /-- What days are compared with stands in the texts as it is, and so do the subpartitions. -/
  spelled : statement.SpellsRanges table ∧
    ∀ partition ∈ statements, partition.SpellsRange table
  /-- Rows are assigned by the year of their day, and further by its month. -/
  method : statement.method = "RANGE(YEAR(" ++ column ++ "))" ∧
    statement.submethod = buckets.granularity.dividing ("HASH(MONTH(" ++ column ++ "))")
  twelve : buckets.granularity = .yearMonth → ∃ clauses, statement.body = .clauses clauses ∧
    ∀ clause ∈ clauses, clause.subpartitions.length = 12
  within : ∀ day : Day, day.year ∈ buckets.span.years →
    statement.route day =
        some ⟨"year" ++ Text.Numeral.ofInt day.year,
          buckets.granularity.dividing (buckets.granularity.bucket day)⟩ ∧
      PartitionOf.route statements day = [table.child (buckets.granularity.bucket day)]
  beyond : ∀ day : Day, buckets.span.last < day.year →
    statement.route day =
        (if buckets.includeFuture then
          some ⟨"future",
            buckets.granularity.dividing ("\x60" ++ day.month.name ++ "\x60")⟩
        else none) ∧
      PartitionOf.route statements day = []

/-- Whatever both dialects can write of a calendar layout of dates, they route alike. -/
theorem calendar_routesAlike {table : TableName} {column : String} {buckets : CalendarBuckets}
    {statement : AlterTable} {statements : List PartitionOf} (dates : buckets.timestamp = false)
    (inPlace : AlterTable.calendar table column buckets = .ok statement)
    (apart : PartitionOf.calendar table buckets = .ok statements) :
    RoutesAlike table column buckets statement statements := by
  have shape := AlterTable.calendar_eq dates inPlace
  constructor
  case rendered =>
    constructor
    · simp [Strategy.render, AlterTable.ofLayout, inPlace, Except.map]
    · simp [Strategy.render, PartitionOf.ofLayout, apart, Except.map]
  case method =>
    rw [shape]
    exact ⟨rfl, rfl⟩
  case spelled =>
    constructor
    · rw [shape]
      apply AlterTable.spellsRanges_of_clauses
      apply forall_mem_append_ite
      case explicit =>
        rw [List.forall_mem_map]
        intro year _
        exact ⟨_, _, AlterTable.definition_yearClause buckets.granularity year⟩
      case final => exact ⟨_, _, AlterTable.definition_futureClause buckets.granularity⟩
    · intro partition
      exact PartitionOf.spellsRange_of_mem_calendar apart
  case twelve =>
    intro months
    rw [shape, months]
    refine ⟨_, rfl, ?_⟩
    apply forall_mem_append_ite
    case explicit =>
      rw [List.forall_mem_map]
      intro year _
      rfl
    case final => rfl
  case within =>
    intro day member
    rw [AlterTable.route_within (congrArg AlterTable.body shape)
      (AlterTable.definition_yearClause buckets.granularity) member,
      AlterTable.place_yearClause, PartitionOf.route_calendar apart, if_pos member]
    exact ⟨rfl, rfl⟩
  case beyond =>
    intro day beyond
    have outside : day.year ∉ buckets.span.years := by
      rw [buckets.span.mem_years]
      omega
    rw [AlterTable.route_beyond (congrArg AlterTable.body shape)
      (AlterTable.definition_yearClause buckets.granularity)
      (AlterTable.definition_futureClause buckets.granularity) beyond,
      AlterTable.place_futureClause, PartitionOf.route_calendar apart, if_neg outside]
    exact ⟨rfl, rfl⟩

/-- The years 2021 and 2022, with a partition for those after them. -/
def twoYears (granularity : Granularity) : CalendarBuckets :=
  ⟨⟨2021, 2022, by decide, by decide, by decide⟩, granularity, true, false⟩

theorem twoYears_routesAlike :
    (∃ statement statements,
      (twoYears .year).timestamp = false ∧
        AlterTable.calendar ⟨none, "events"⟩ "created_at" (twoYears .year) = .ok statement ∧
        PartitionOf.calendar ⟨none, "events"⟩ (twoYears .year) = .ok statements ∧
        RoutesAlike ⟨none, "events"⟩ "created_at" (twoYears .year) statement statements) ∧
    ∃ statement statements,
      (twoYears .yearMonth).timestamp = false ∧
        AlterTable.calendar ⟨none, "events"⟩ "created_at" (twoYears .yearMonth) = .ok statement ∧
        PartitionOf.calendar ⟨none, "events"⟩ (twoYears .yearMonth) = .ok statements ∧
        RoutesAlike ⟨none, "events"⟩ "created_at" (twoYears .yearMonth) statement statements := by
  constructor
  · exact ⟨_, _, rfl, rfl, rfl, calendar_routesAlike rfl rfl rfl⟩
  · exact ⟨_, _, rfl, rfl, rfl, calendar_routesAlike rfl rfl rfl⟩

end Ddl

end TablePartitioning
