import TablePartitioning.Proofs.Calendar.Day
import TablePartitioning.Proofs.Calendar.YearSpan
import TablePartitioning.Proofs.Ddl.Literal
import TablePartitioning.Proofs.Ddl.StatementText

/-!
# The days that partitions hold

A partition that is given by two dates holds the days from the first on up to the second, which
are read from the literals of the statement.  Every span of years has its partitions, and a day of
the span is held by exactly one of them.
-/

namespace TablePartitioning

/-! ## The dates around a year and a month -/

theorem YearSpan.yearBounds_eq {year : Int} (hasYear : isCalendarYear year = true)
    (hasNext : isCalendarYear (year + 1) = true) :
    yearBounds year = .ok (⟨year, .jan⟩, ⟨year + 1, .jan⟩) := by
  simp [yearBounds, startOf, MonthStart.ofYear?, MonthStart.nextYear?, hasYear, hasNext]

theorem YearSpan.monthBounds_eq {year : Int} (month : Month)
    (hasYear : isCalendarYear year = true) (hasNext : isCalendarYear (year + 1) = true) :
    monthBounds year month = .ok (⟨year, month⟩, MonthStart.following ⟨year, month⟩) := by
  have next := MonthStart.nextMonth?_eq_following ⟨year, month⟩ hasNext
  simp [monthBounds, MonthStart.ofYear?, hasYear, next]

/-! ## Buckets of days -/

/-- The bucket of a day, by the year or by the month with the year. -/
def Granularity.bucket (granularity : Granularity) (day : Day) : String :=
  match granularity with
  | .year => Text.Numeral.ofInt day.year
  | .yearMonth => day.month.name ++ Text.Numeral.ofInt day.year

namespace Ddl

namespace HeldValues

/-- The day of a literal. -/
def dayOf? (literal : String) : Option Day :=
  (Literal.value? literal).bind Day.ofText?

/-- Whether a day lies between the two dates of a range. -/
def holds (values : HeldValues) (day : Day) : Bool :=
  match values with
  | .range start finish =>
      match dayOf? start, dayOf? finish with
      | some start, some finish => !decide (day.Before start) && decide (day.Before finish)
      | _, _ => false
  | _ => false

theorem dayOf?_quote (start : MonthStart) :
    dayOf? (Literal.quote start.text) = some start.firstDay := by
  rw [dayOf?, Literal.value?_quote]
  exact start.ofText?_text

theorem holds_dates (start finish : MonthStart) (day : Day) :
    (dates (start, finish)).holds day =
      (decide (start.ordinal ≤ day.monthOrdinal) && decide (day.monthOrdinal < finish.ordinal)) := by
  simp only [dates, holds, dayOf?_quote]
  rw [← decide_not, decide_eq_decide.mpr (start.not_before_firstDay_iff day),
    decide_eq_decide.mpr (finish.before_firstDay_iff day)]

end HeldValues

namespace PartitionOf

/-- The tables that hold a day. -/
def route (statements : List PartitionOf) (day : Day) : List TableName :=
  (statements.filter fun statement => statement.values.holds day).map child

/-- The statement of a year. -/
def yearStatement (table : TableName) (year : Int) : PartitionOf :=
  ⟨table, Text.Numeral.ofInt year, .dates (⟨year, .jan⟩, ⟨year + 1, .jan⟩)⟩

/-- The statement of a month of a year. -/
def monthStatement (table : TableName) (year : Int) (month : Month) : PartitionOf :=
  ⟨table, month.name ++ Text.Numeral.ofInt year,
    .dates (⟨year, month⟩, MonthStart.following ⟨year, month⟩)⟩

theorem ofYear_eq {table : TableName} {year : Int} (hasYear : isCalendarYear year = true)
    (hasNext : isCalendarYear (year + 1) = true) :
    ofYear table year = .ok (yearStatement table year) := by
  rw [ofYear, YearSpan.yearBounds_eq hasYear hasNext]
  rfl

theorem ofMonth_eq {table : TableName} {year : Int} {month : Month}
    (hasYear : isCalendarYear year = true) (hasNext : isCalendarYear (year + 1) = true) :
    ofMonth table year month = .ok (monthStatement table year month) := by
  rw [ofMonth, YearSpan.monthBounds_eq month hasYear hasNext]
  rfl

theorem mapM_eq_ok {render : Input → Except Failure Output} {result : Input → Output}
    (inputs : List Input) (rendered : ∀ input ∈ inputs, render input = .ok (result input)) :
    inputs.mapM render = .ok (inputs.map result) := by
  induction inputs with
  | nil => rfl
  | cons first rest inductionHypothesis =>
      have early := rendered first List.mem_cons_self
      have late := inductionHypothesis fun input member =>
        rendered input (List.mem_cons_of_mem first member)
      rw [List.mapM_cons, early, late]
      rfl

theorem calendar_of_year {table : TableName} {buckets : CalendarBuckets}
    (years : buckets.granularity = .year) :
    calendar table buckets = .ok (buckets.span.years.map (yearStatement table)) := by
  unfold calendar
  rw [years]
  apply mapM_eq_ok
  intro year member
  have calendarYears := buckets.span.isCalendarYear_of_mem member
  exact ofYear_eq calendarYears.1 calendarYears.2

theorem calendar_of_yearMonth {table : TableName} {buckets : CalendarBuckets}
    (months : buckets.granularity = .yearMonth) :
    calendar table buckets =
      .ok (buckets.span.months.map fun (year, month) => monthStatement table year month) := by
  unfold calendar
  rw [months]
  apply mapM_eq_ok
  rintro ⟨year, month⟩ member
  have calendarYears := buckets.span.isCalendarYear_of_mem (buckets.span.mem_months.mp member)
  exact ofMonth_eq calendarYears.1 calendarYears.2

theorem eq_dates_of_mem_calendar {table : TableName} {buckets : CalendarBuckets}
    {statements : List PartitionOf} {statement : PartitionOf}
    (rendered : calendar table buckets = .ok statements) (member : statement ∈ statements) :
    ∃ label bounds, statement = ⟨table, label, .dates bounds⟩ := by
  cases granularity : buckets.granularity with
  | year =>
      rw [calendar_of_year granularity] at rendered
      cases rendered
      obtain ⟨year, _, rfl⟩ := List.mem_map.mp member
      exact ⟨_, _, rfl⟩
  | yearMonth =>
      rw [calendar_of_yearMonth granularity] at rendered
      cases rendered
      obtain ⟨⟨year, month⟩, _, rfl⟩ := List.mem_map.mp member
      exact ⟨_, _, rfl⟩

/-- Every partition of a span is written with both of its dates. -/
theorem spellsRange_of_mem_calendar {table : TableName} {buckets : CalendarBuckets}
    {statements : List PartitionOf} {statement : PartitionOf}
    (rendered : calendar table buckets = .ok statements) (member : statement ∈ statements) :
    SpellsRange table statement := by
  obtain ⟨label, bounds, rfl⟩ := eq_dates_of_mem_calendar rendered member
  exact spellsRange_range table label _ _

/-! ## The partition of a day -/

theorem holds_yearStatement (table : TableName) (year : Int) (day : Day) :
    (yearStatement table year).values.holds day = decide (year = day.year) := by
  have january : Month.number .jan = 1 := rfl
  have := day.month.number_bounds
  rw [yearStatement, HeldValues.holds_dates, ← Bool.decide_and]
  apply decide_eq_decide.mpr
  simp only [MonthStart.ordinal, Day.monthOrdinal, january]
  omega

theorem holds_monthStatement (table : TableName) (year : Int) (month : Month) (day : Day) :
    (monthStatement table year month).values.holds day =
      decide ((year, month) = (day.year, day.month)) := by
  have := month.number_bounds
  have := day.month.number_bounds
  rw [monthStatement, HeldValues.holds_dates, ← Bool.decide_and, MonthStart.ordinal_following]
  apply decide_eq_decide.mpr
  simp only [MonthStart.ordinal, Day.monthOrdinal, Prod.mk.injEq]
  constructor
  · intro between
    have sameNumber : month.number = day.month.number := by omega
    exact ⟨by omega, Month.number_injective sameNumber⟩
  · rintro ⟨rfl, rfl⟩
    omega

theorem holding_years (table : TableName) (span : YearSpan) (day : Day) :
    (span.years.map (yearStatement table)).filter (fun statement => statement.values.holds day) =
      if day.year ∈ span.years then [yearStatement table day.year] else [] := by
  rw [List.filter_map]
  simp only [Function.comp_def, holds_yearStatement]
  rw [filter_eq_of_nodup span.nodup_years]
  split
  · rfl
  · rfl

theorem holding_months (table : TableName) (span : YearSpan) (day : Day) :
    (span.months.map fun (year, month) => monthStatement table year month).filter
        (fun statement => statement.values.holds day) =
      if day.year ∈ span.years then [monthStatement table day.year day.month] else [] := by
  rw [List.filter_map]
  simp only [Function.comp_def, holds_monthStatement]
  rw [filter_eq_of_nodup span.nodup_months]
  simp only [span.mem_months]
  split
  · rfl
  · rfl

theorem route_years (table : TableName) (span : YearSpan) (day : Day) :
    route (span.years.map (yearStatement table)) day =
      if day.year ∈ span.years then [table.child (Text.Numeral.ofInt day.year)] else [] := by
  rw [route, holding_years]
  split
  · rfl
  · rfl

theorem route_months (table : TableName) (span : YearSpan) (day : Day) :
    route (span.months.map fun (year, month) => monthStatement table year month) day =
      if day.year ∈ span.years then
        [table.child (day.month.name ++ Text.Numeral.ofInt day.year)]
      else [] := by
  rw [route, holding_months]
  split
  · rfl
  · rfl

/-- A day of the span is in the partition of its bucket and in no other; other days are in none. -/
theorem route_calendar {table : TableName} {buckets : CalendarBuckets}
    {statements : List PartitionOf} (rendered : calendar table buckets = .ok statements)
    (day : Day) :
    route statements day =
      if day.year ∈ buckets.span.years then [table.child (buckets.granularity.bucket day)]
      else [] := by
  cases granularity : buckets.granularity with
  | year =>
      rw [calendar_of_year granularity] at rendered
      cases rendered
      exact route_years table buckets.span day
  | yearMonth =>
      rw [calendar_of_yearMonth granularity] at rendered
      cases rendered
      exact route_months table buckets.span day

end PartitionOf

end Ddl

end TablePartitioning
