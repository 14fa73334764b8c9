import Mathlib.Data.List.Nodup
import TablePartitioning.Proofs.Ddl.CalendarSubpartitions

/-!
# The days that years end before, in both dialects

Where a column holds seconds, the bound of a year in place names the midnight that the next year
begins with; a partition of its own ends with the date of the same day.  The two dates are written
by different hands: one numbers the year without filling it up, the other fills it up to four
digits and puts a sign before longer ones.  They are the same text for years of four digits, and
for years before zero of four digits or more.
-/

namespace TablePartitioning

namespace Text.Numeral

theorem padded_four_eq_repr_iff (value : Nat) : padded 4 value = value.repr ↔ 1000 ≤ value := by
  have digits : (Nat.toDigits 10 value).length ≤ 3 ↔ value < 1000 :=
    Nat.length_toDigits_le_iff (by decide) (by decide)
  rw [← String.toList_inj, toList_padded, Nat.toList_repr, List.append_left_eq_self,
    List.replicate_eq_nil_iff]
  omega

theorem repr_ne_signed (value : Nat) (text : String) : value.repr ≠ "+" ++ text := by
  intro same
  have sign : '+' ∈ value.repr.toList := by
    rw [same, String.toList_append]
    exact List.mem_append_left _ List.mem_cons_self
  have digit := isDigit_of_mem_repr sign
  revert digit
  decide

end Text.Numeral

open Text.Numeral

theorem ofInt_eq_yearText_iff (year : Int) :
    ofInt year = yearText year ↔ 1000 ≤ year ∧ year ≤ 9999 ∨ year ≤ -1000 := by
  have filled := padded_four_eq_repr_iff year.natAbs
  by_cases negative : year < 0
  · rw [ofInt, yearText, if_pos negative, if_pos negative, String.append_right_inj,
      eq_comm, filled]
    omega
  · rw [ofInt, yearText, if_neg negative, if_neg negative]
    by_cases short : year ≤ 9999
    · rw [if_pos short, eq_comm, filled]
      omega
    · rw [if_neg short]
      constructor
      · intro same
        exact (repr_ne_signed _ _ same).elim
      · omega

theorem Day.ofText?_newYear {numeral : String} {year : Int}
    (numbered : integer? numeral = some year) :
    ofText? (numeral ++ "-01-01") = some (newYear year) := by
  rw [← MonthStart.january_joined]
  exact (⟨year, .jan⟩ : MonthStart).ofText?_numbered numbered

namespace Ddl

/-! ## In place -/

namespace AlterTable

/-- The date of the midnight whose second a bound names. -/
def midnight? (bound : String) : Option String :=
  (("UNIX_TIMESTAMP('".toList.isPrefixOf? bound.toList).bind fun rest =>
    " 00:00:00')".toList.isSuffixOf? rest).map String.ofList

theorem midnight?_call (date : String) :
    midnight? ("UNIX_TIMESTAMP('" ++ date ++ " 00:00:00')") = some date := by
  have opened : "UNIX_TIMESTAMP('".toList.isPrefixOf?
      ("UNIX_TIMESTAMP('" ++ date ++ " 00:00:00')").toList =
        some (date.toList ++ " 00:00:00')".toList) := by
    rw [List.isPrefixOf?_eq_some_iff_append_eq, String.toList_append, String.toList_append,
      List.append_assoc]
  have closed : " 00:00:00')".toList.isSuffixOf? (date.toList ++ " 00:00:00')".toList) =
      some date.toList := by
    rw [List.isSuffixOf?_eq_some_iff_append_eq]
  rw [midnight?, opened, Option.bind_some, closed, Option.map_some, String.ofList_toList]

theorem midnight?_yearBound (year : Int) :
    midnight? (yearBound year true) = some (ofInt (year + 1) ++ "-01-01") := by
  have called : yearBound year true =
      "UNIX_TIMESTAMP('" ++ (ofInt (year + 1) ++ "-01-01") ++ " 00:00:00')" := by
    apply String.toList_inj.mp
    simp [yearBound]
  rw [called]
  exact midnight?_call (ofInt (year + 1) ++ "-01-01")

/-- The dates that the partitions of a year end before. -/
def endDates (statement : AlterTable) (year : Int) : List String :=
  match statement.body with
  | .clauses list =>
      (list.filter fun clause => clause.definition.name = yearName year).filterMap fun clause =>
        clause.definition.bound?.bind midnight?
  | .count _ => []

theorem name_eq_yearName_iff (timestamp : Bool) (year other : Int) :
    (yearDefinition timestamp other).name = yearName year ↔ other = year := by
  show "year" ++ ofInt other = "year" ++ ofInt year ↔ other = year
  rw [String.append_right_inj, ofInt_inj]

theorem future_name_ne_yearName (year : Int) : Definition.future.name ≠ yearName year := by
  intro same
  have first := congrArg (fun name => name.toList.head?) same
  simp [Definition.future, Definition.range, yearName] at first

/-- The clauses of a span are those of its years, and one for the future where it is wanted. -/
theorem body_calendar {table : TableName} {column : String} {buckets : CalendarBuckets}
    {statement : AlterTable} (rendered : calendar table column buckets = .ok statement) :
    ∃ clauseOf future, (∀ year, (clauseOf year).definition =
        yearDefinition buckets.timestamp year) ∧ future.definition = Definition.future ∧
      statement.body = .clauses (buckets.span.years.map clauseOf ++
        if buckets.includeFuture then [future] else []) := by
  rcases buckets with ⟨span, granularity, includeFuture, timestamp⟩
  cases granularity with
  | year =>
      rw [calendar_year] at rendered
      split at rendered
      · cases rendered
        have split : clausesOf (span.years.map (yearDefinition timestamp)) includeFuture =
            span.years.map (fun year => .ofDefinition (yearDefinition timestamp year)) ++
              if includeFuture then [.ofDefinition Definition.future] else [] := by
          rw [clausesOf, List.map_append, List.map_map]
          cases includeFuture <;> rfl
        exact ⟨_, _, fun year => rfl, rfl, congrArg PartitionBody.clauses split⟩
      · cases rendered
  | yearMonth =>
      cases rendered
      exact ⟨yearMonthClause timestamp, futureMonthClause, fun year => rfl, rfl, rfl⟩

theorem endDates_calendar {table : TableName} {column : String} {buckets : CalendarBuckets}
    {statement : AlterTable} (seconds : buckets.timestamp = true)
    (rendered : calendar table column buckets = .ok statement) {year : Int}
    (member : year ∈ buckets.span.years) :
    statement.endDates year = [ofInt (year + 1) ++ "-01-01"] := by
  rcases body_calendar rendered with ⟨clauseOf, future, ofYears, ofFuture, body⟩
  have named : (if buckets.includeFuture then [future] else []).filter
      (fun clause => clause.definition.name = yearName year) = [] := by
    have other := future_name_ne_yearName year
    cases buckets.includeFuture <;> simp [ofFuture, other]
  rw [endDates, body]
  simp only [List.filter_append, named, List.filter_map, Function.comp_def, ofYears,
    name_eq_yearName_iff]
  rw [filter_eq_of_nodup buckets.span.nodup_years, if_pos member]
  have bound : (yearDefinition true year).bound? = some (yearBound year true) := rfl
  simp [ofYears, seconds, bound, midnight?_yearBound]

end AlterTable

/-! ## As tables of their own -/

namespace HeldValues

/-- The date that a range of dates ends before. -/
def endDate? : HeldValues → Option String
  | .range _ finish => Literal.value? finish
  | _ => none

theorem endDate?_dates (bounds : MonthStart × MonthStart) :
    (dates bounds).endDate? = some bounds.2.text := by
  show Literal.value? (Literal.quote bounds.2.text) = some bounds.2.text
  exact Literal.value?_quote bounds.2.text

end HeldValues

namespace PartitionOf

/-- The dates that the partitions of a year end before. -/
def endDates (statements : List PartitionOf) (year : Int) : List String :=
  (statements.filter fun statement => statement.label = ofInt year).filterMap fun statement =>
    statement.values.endDate?

theorem endDates_calendar {table : TableName} {buckets : CalendarBuckets}
    {statements : List PartitionOf} (years : buckets.granularity = .year)
    (rendered : calendar table buckets = .ok statements) {year : Int}
    (member : year ∈ buckets.span.years) :
    endDates statements year = [(⟨year + 1, .jan⟩ : MonthStart).text] := by
  rw [calendar_of_year years] at rendered
  cases rendered
  have labelled (other : Int) : (yearStatement table other).label = ofInt year ↔ other = year :=
    ofInt_inj
  have ended : (yearStatement table year).values.endDate? =
      some (⟨year + 1, .jan⟩ : MonthStart).text :=
    HeldValues.endDate?_dates (⟨year, .jan⟩, ⟨year + 1, .jan⟩)
  rw [endDates]
  simp only [List.filter_map, Function.comp_def, labelled]
  rw [filter_eq_of_nodup buckets.span.nodup_years, if_pos member]
  simp [ended]

end PartitionOf

/-! ## Both dialects -/

/-- The dates that a year ends before, in the statement and the statements of the two dialects. -/
structure EndsAlike (statement : AlterTable) (statements : List PartitionOf) (year : Int) :
    Prop where
  inPlace : statement.endDates year = [ofInt (year + 1) ++ "-01-01"]
  apart : PartitionOf.endDates statements year = [(⟨year + 1, .jan⟩ : MonthStart).text]
  /-- As a year, a month and a number each of them is the first day of the next year. -/
  sameDay : ∀ date ∈ statement.endDates year ++ PartitionOf.endDates statements year,
    Day.ofText? date = some (newYear (year + 1))
  sameText_iff : statement.endDates year = PartitionOf.endDates statements year ↔
    1000 ≤ year + 1 ∧ year + 1 ≤ 9999 ∨ year + 1 ≤ -1000

/-- Each year of a span ends before one date in each dialect, and it takes a next year of four
digits, or one before zero of at least four, for the two dates to be the same text. -/
theorem calendar_endsAlike {table : TableName} {column : String} {span : YearSpan}
    {granularity : Granularity} {includeFuture ignored timestamp : Bool} {statement : AlterTable}
    {statements : List PartitionOf}
    (inPlace : AlterTable.calendar table column ⟨span, granularity, includeFuture, true⟩ =
      .ok statement)
    (apart : PartitionOf.calendar table ⟨span, .year, ignored, timestamp⟩ = .ok statements) :
    ∀ year ∈ span.years, EndsAlike statement statements year := by
  intro year member
  have early := AlterTable.endDates_calendar rfl inPlace member
  have late := PartitionOf.endDates_calendar rfl apart member
  constructor
  case inPlace => exact early
  case apart => exact late
  case sameDay =>
    intro date among
    rw [early, late, MonthStart.text_january] at among
    rcases List.mem_append.mp among with first | second
    · rw [List.mem_singleton.mp first]
      exact Day.ofText?_newYear (integer?_ofInt (year + 1))
    · rw [List.mem_singleton.mp second]
      exact Day.ofText?_newYear (integer?_yearText (year + 1))
  case sameText_iff =>
    rw [early, late, MonthStart.text_january, List.singleton_inj, String.append_left_inj]
    exact ofInt_eq_yearText_iff (year + 1)

/-- The last years before the year one thousand. -/
def beforeThousand : YearSpan :=
  ⟨998, 999, by decide, by decide, by decide⟩

theorem beforeThousand_endsAlike :
    ∃ statement statements,
      AlterTable.calendar ⟨none, "events"⟩ "created_at" ⟨beforeThousand, .yearMonth, true, true⟩ =
          .ok statement ∧
        PartitionOf.calendar ⟨none, "events"⟩ ⟨beforeThousand, .year, true, true⟩ =
          .ok statements ∧
        ∀ year ∈ beforeThousand.years, EndsAlike statement statements year := by
  have inPlace := AlterTable.calendar_yearMonth ⟨none, "events"⟩ "created_at" beforeThousand true
    true
  have apart : PartitionOf.calendar ⟨none, "events"⟩ ⟨beforeThousand, .year, true, true⟩ = .ok _ :=
    PartitionOf.calendar_of_year rfl
  exact ⟨_, _, inPlace, apart, calendar_endsAlike inPlace apart⟩

/-- The year ninety-eight, before which no year of four digits ends. -/
def ninetyEight : YearSpan :=
  ⟨98, 98, by decide, by decide, by decide⟩

/-- The one dialect ends the year with a year of two digits, and the other with one of four. -/
theorem ninetyEight_endsApart :
    YearSpan.between 98 98 = .ok ninetyEight ∧ 98 ∈ ninetyEight.years ∧
      ∃ statement statements,
        AlterTable.calendar ⟨none, "events"⟩ "created_at" ⟨ninetyEight, .year, false, true⟩ =
            .ok statement ∧
          PartitionOf.calendar ⟨none, "events"⟩ ⟨ninetyEight, .year, false, true⟩ =
            .ok statements ∧
          statement.endDates 98 = ["99-01-01"] ∧
          PartitionOf.endDates statements 98 = ["0099-01-01"] ∧
          statement.endDates 98 ≠ PartitionOf.endDates statements 98 := by
  have member : 98 ∈ ninetyEight.years := by decide
  have inPlace := AlterTable.calendar_year ⟨none, "events"⟩ "created_at" ninetyEight false true
  rw [if_pos (by decide)] at inPlace
  have apart : PartitionOf.calendar ⟨none, "events"⟩ ⟨ninetyEight, .year, false, true⟩ = .ok _ :=
    PartitionOf.calendar_of_year rfl
  have early := AlterTable.endDates_calendar rfl inPlace member
  have late := PartitionOf.endDates_calendar rfl apart member
  have twoDigits : ofInt (98 + 1) ++ "-01-01" = "99-01-01" := by decide
  have fourDigits : (⟨98 + 1, .jan⟩ : MonthStart).text = "0099-01-01" := by decide
  rw [twoDigits] at early
  rw [fourDigits] at late
  refine ⟨?_, member, _, _, inPlace, apart, early, late, ?_⟩
  · rfl
  · rw [early, late]
    decide

end Ddl

end TablePartitioning
