import TablePartitioning.Ddl.Strategy
import TablePartitioning.Proofs.Ddl.CalendarPartitions

/-!
# Calendar partitions without gaps

The ranges of the partitions of a span are chained by their literals: what one ends with, the next
begins with.  The chain of a span is put together from the chains of its years, so that the
induction on the years is the same whether a year is one partition or twelve.  `Tiles` says what
the partitions of a span amount to, in their literals and in the days that they hold.
-/

namespace TablePartitioning

/-- The number of partitions for each year. -/
def Granularity.perYear : Granularity → Nat
  | .year => 1
  | .yearMonth => 12

/-- The first day of a year. -/
def newYear (year : Int) : Day :=
  (⟨year, .jan⟩ : MonthStart).firstDay

namespace Ddl

/-- The literal of the first day of a year. -/
def newYearLiteral (year : Int) : String :=
  Literal.quote (yearText year ++ "-01-01")

theorem quote_january (year : Int) :
    Literal.quote (⟨year, .jan⟩ : MonthStart).text = newYearLiteral year := by
  rw [newYearLiteral, MonthStart.text_january]

namespace HeldValues

/-- Ranges from a lower end up to an upper one, each of which begins with the literal that the
range before it ends with. -/
def Chained : String → List HeldValues → String → Prop
  | lower, [], upper => lower = upper
  | lower, .range start finish :: rest, upper => start = lower ∧ Chained finish rest upper
  | _, _ :: _, _ => False

theorem Chained.append
    {lower middle upper : String}
    {first second : List HeldValues}
    (early : Chained lower first middle)
    (late : Chained middle second upper) :
    Chained lower (first ++ second) upper := by
  induction first generalizing lower with
  | nil =>
      cases early
      exact late
  | cons values rest inductionHypothesis =>
      cases values with
      | range start finish =>
          obtain ⟨begins, follows⟩ := early
          exact ⟨begins, inductionHypothesis follows⟩
      | list values => exact early.elim
      | hash modulus remainder => exact early.elim

/-- Chains of consecutive years make one chain. -/
theorem chained_consecutive
    {ends : Int → String}
    {parts : Int → List HeldValues}
    (chained : ∀ year, Chained (ends year) (parts year) (ends (year + 1)))
    (first : Int) (count : Nat) :
    Chained (ends first)
      (((List.range count).map fun index : Nat => first + (index : Int)).flatMap parts)
      (ends (first + count)) := by
  induction count with
  | zero => simp [Chained]
  | succ count inductionHypothesis =>
      rw [List.range_succ, List.map_append, List.flatMap_append]
      apply inductionHypothesis.append
      have next : first + (count + 1 : Nat) = first + count + 1 := by omega
      rw [next]
      simpa using chained (first + count)

theorem chained_years
    {ends : Int → String}
    {parts : Int → List HeldValues}
    (chained : ∀ year, Chained (ends year) (parts year) (ends (year + 1)))
    (span : YearSpan) :
    Chained (ends span.first) (span.years.flatMap parts) (ends (span.last + 1)) := by
  have ordered := span.first_le_last
  have finish : span.first + (span.length : Int) = span.last + 1 := by
    rw [YearSpan.length]
    omega
  rw [← finish]
  exact chained_consecutive chained span.first span.length

theorem chained_months (year : Int) :
    Chained (newYearLiteral year)
      (Month.calendarOrder.map fun month =>
        dates (⟨year, month⟩, MonthStart.following ⟨year, month⟩))
      (newYearLiteral (year + 1)) := by
  rw [← quote_january, ← quote_january]
  simp [Chained, Month.calendarOrder, dates, MonthStart.following, Month.next?]

end HeldValues

namespace PartitionOf

/-- The statements of a year. -/
def statementsOfYear (granularity : Granularity) (table : TableName) (year : Int) :
    List PartitionOf :=
  match granularity with
  | .year => [yearStatement table year]
  | .yearMonth => Month.calendarOrder.map (monthStatement table year)

/-- The statement of the bucket of a day. -/
def statementOfDay (granularity : Granularity) (table : TableName) (day : Day) : PartitionOf :=
  match granularity with
  | .year => yearStatement table day.year
  | .yearMonth => monthStatement table day.year day.month

theorem flatMap_statementsOfYear_year (table : TableName) (span : YearSpan) :
    span.years.flatMap (statementsOfYear .year table) =
      span.years.map (yearStatement table) := by
  rw [List.map_eq_flatMap]
  rfl

theorem flatMap_statementsOfYear_yearMonth (table : TableName) (span : YearSpan) :
    span.years.flatMap (statementsOfYear .yearMonth table) =
      span.months.map fun (year, month) => monthStatement table year month := by
  rw [YearSpan.months, List.map_flatMap]
  simp only [List.map_map]
  rfl

theorem calendar_eq_flatMap (table : TableName) (buckets : CalendarBuckets) :
    calendar table buckets =
      .ok (buckets.span.years.flatMap (statementsOfYear buckets.granularity table)) := by
  cases granularity : buckets.granularity with
  | year => rw [calendar_of_year granularity, flatMap_statementsOfYear_year]
  | yearMonth => rw [calendar_of_yearMonth granularity, flatMap_statementsOfYear_yearMonth]

theorem length_statementsOfYear (granularity : Granularity) (table : TableName) (year : Int) :
    (statementsOfYear granularity table year).length = granularity.perYear := by
  cases granularity with
  | year => rfl
  | yearMonth => rfl

theorem chained_statementsOfYear (granularity : Granularity) (table : TableName) (year : Int) :
    HeldValues.Chained (newYearLiteral year)
      ((statementsOfYear granularity table year).map values) (newYearLiteral (year + 1)) := by
  cases granularity with
  | year => exact ⟨quote_january year, quote_january (year + 1)⟩
  | yearMonth =>
      have months := HeldValues.chained_months year
      simpa [statementsOfYear, monthStatement, Function.comp_def] using months

/-- A partition holds the first day of its bucket. -/
theorem inhabited_statementsOfYear {granularity : Granularity} {table : TableName} {year : Int}
    {statement : PartitionOf} (member : statement ∈ statementsOfYear granularity table year) :
    ∃ day, statement.values.holds day = true := by
  cases granularity with
  | year =>
      rw [List.mem_singleton.mp member]
      refine ⟨newYear year, ?_⟩
      rw [holds_yearStatement]
      exact decide_eq_true rfl
  | yearMonth =>
      obtain ⟨month, _, rfl⟩ := List.mem_map.mp member
      refine ⟨(⟨year, month⟩ : MonthStart).firstDay, ?_⟩
      rw [holds_monthStatement]
      exact decide_eq_true rfl

/-- A day is held by the statement of its bucket alone. -/
theorem holding_span (granularity : Granularity) (table : TableName) (span : YearSpan) (day : Day) :
    (span.years.flatMap (statementsOfYear granularity table)).filter
        (fun statement => statement.values.holds day) =
      if day.year ∈ span.years then [statementOfDay granularity table day] else [] := by
  cases granularity with
  | year =>
      rw [flatMap_statementsOfYear_year]
      exact holding_years table span day
  | yearMonth =>
      rw [flatMap_statementsOfYear_yearMonth]
      exact holding_months table span day

theorem holding_year (granularity : Granularity) (table : TableName) (year : Int) (day : Day) :
    (statementsOfYear granularity table year).filter
        (fun statement => statement.values.holds day) =
      if (yearStatement table year).values.holds day then
        [statementOfDay granularity table day]
      else [] := by
  rw [holds_yearStatement]
  cases granularity with
  | year =>
      by_cases same : year = day.year
      · subst same
        simp [statementsOfYear, statementOfDay, holds_yearStatement]
      · simp [statementsOfYear, holds_yearStatement, same]
  | yearMonth =>
      rw [statementsOfYear, List.filter_map]
      simp only [Function.comp_def, holds_monthStatement, Prod.mk.injEq]
      by_cases same : year = day.year
      · subst same
        have once := filter_eq_of_nodup Month.nodup_calendarOrder day.month
        rw [if_pos (Month.mem_calendarOrder day.month)] at once
        simp [once, statementOfDay]
      · simp [same]

end PartitionOf

/-! ## What the partitions of a span amount to -/

/-- The years of a span lie between the first days of its first year and of the year after it. -/
theorem mem_years_iff_newYear (span : YearSpan) (day : Day) :
    day.year ∈ span.years ↔
      ¬ day.Before (newYear span.first) ∧ day.Before (newYear (span.last + 1)) := by
  have january : Month.number .jan = 1 := rfl
  have := day.month.number_bounds
  rw [newYear, newYear, MonthStart.not_before_firstDay_iff, MonthStart.before_firstDay_iff,
    span.mem_years]
  simp only [MonthStart.ordinal, Day.monthOrdinal, january]
  omega

/-- Statements that lay a span of years out without gap and without overlap. -/
structure Tiles (table : TableName) (column : String) (buckets : CalendarBuckets)
    (statements : List PartitionOf) : Prop where
  rendered : Strategy.render .partitionOf table (.calendar column buckets) =
    .ok (statements.map PartitionOf.text)
  /-- Each is written with both of its dates. -/
  spelled : ∀ statement ∈ statements, statement.SpellsRange table
  count : statements.length = buckets.granularity.perYear * buckets.span.length
  /-- From the first day of the span to the day after it, each range begins as the last one ends. -/
  chained : HeldValues.Chained (newYearLiteral buckets.span.first)
    (statements.map PartitionOf.values) (newYearLiteral (buckets.span.last + 1))
  inhabited : ∀ statement ∈ statements, ∃ day, statement.values.holds day = true
  within : ∀ day : Day, ¬ day.Before (newYear buckets.span.first) →
    day.Before (newYear (buckets.span.last + 1)) →
      (statements.filter fun statement => statement.values.holds day) =
        [PartitionOf.statementOfDay buckets.granularity table day]
  outside : ∀ day : Day, day.Before (newYear buckets.span.first) ∨
    ¬ day.Before (newYear (buckets.span.last + 1)) →
      (statements.filter fun statement => statement.values.holds day) = []

/-- The months of a year share out the days of the year. -/
structure SharesOut (year : PartitionOf) (months : List PartitionOf) : Prop where
  twelve : months.length = 12
  chained : ∃ start finish, year.values = .range start finish ∧
    HeldValues.Chained start (months.map PartitionOf.values) finish
  once : ∀ day, (months.filter fun month => month.values.holds day).length =
    if year.values.holds day then 1 else 0

theorem tiles_span (table : TableName) (column : String) (buckets : CalendarBuckets) :
    Tiles table column buckets
      (buckets.span.years.flatMap
        (PartitionOf.statementsOfYear buckets.granularity table)) := by
  constructor
  case rendered =>
    simp [Strategy.render, PartitionOf.ofLayout, PartitionOf.calendar_eq_flatMap, Except.map]
  case spelled =>
    intro statement
    exact PartitionOf.spellsRange_of_mem_calendar (PartitionOf.calendar_eq_flatMap table buckets)
  case count =>
    rw [List.length_flatMap]
    simp only [PartitionOf.length_statementsOfYear, List.map_const', List.sum_replicate_nat]
    rw [buckets.span.length_years, Nat.mul_comm]
  case chained =>
    rw [List.map_flatMap]
    apply HeldValues.chained_years
    exact PartitionOf.chained_statementsOfYear buckets.granularity table
  case inhabited =>
    intro statement member
    obtain ⟨year, _, ofYear⟩ := List.mem_flatMap.mp member
    exact PartitionOf.inhabited_statementsOfYear ofYear
  case within =>
    intro day above below
    rw [PartitionOf.holding_span,
      if_pos ((mem_years_iff_newYear buckets.span day).mpr ⟨above, below⟩)]
  case outside =>
    intro day apart
    rw [PartitionOf.holding_span, if_neg]
    intro member
    obtain ⟨above, below⟩ := (mem_years_iff_newYear buckets.span day).mp member
    rcases apart with before | after
    · exact above before
    · exact after below

theorem sharesOut_year (table : TableName) (year : Int) :
    SharesOut (PartitionOf.yearStatement table year)
      (PartitionOf.statementsOfYear .yearMonth table year) := by
  constructor
  case twelve => exact PartitionOf.length_statementsOfYear .yearMonth table year
  case chained =>
    refine ⟨newYearLiteral year, newYearLiteral (year + 1), ?_, ?_⟩
    · rw [← quote_january, ← quote_january]
      rfl
    · exact PartitionOf.chained_statementsOfYear .yearMonth table year
  case once =>
    intro day
    rw [PartitionOf.holding_year]
    split
    · rfl
    · rfl

/-- In both granularities the partitions of a span tile it, and the twelve partitions of a year in
the one share out the partition of the year in the other. -/
theorem calendar_tiles
    (table : TableName) (column : String) (span : YearSpan)
    (includeFuture timestamp : Bool) :
    (∀ granularity, Tiles table column ⟨span, granularity, includeFuture, timestamp⟩
      (span.years.flatMap (PartitionOf.statementsOfYear granularity table))) ∧
    ∀ year,
      PartitionOf.statementsOfYear .year table year = [PartitionOf.yearStatement table year] ∧
        SharesOut (PartitionOf.yearStatement table year)
          (PartitionOf.statementsOfYear .yearMonth table year) := by
  constructor
  · intro granularity
    exact tiles_span table column ⟨span, granularity, includeFuture, timestamp⟩
  · intro year
    exact ⟨rfl, sharesOut_year table year⟩

end Ddl

end TablePartitioning
