import TablePartitioning.Calendar.Date
import TablePartitioning.Failure

/-!
# Spans of years

A span runs from a year to a year, both included.  Every year of it has dates, and so has the
year after it, whose first day closes the last bucket.
-/

namespace TablePartitioning

/-- Consecutive years with the dates that bound them. -/
structure YearSpan where
  first : Int
  last : Int
  first_le_last : first ≤ last
  first_exists : firstYear ≤ first
  next_exists : last + 1 ≤ lastYear

namespace YearSpan

/-- The first day of a year. -/
def startOf (year : Int) : Except Failure MonthStart :=
  match MonthStart.ofYear? year .jan with
  | some start => .ok start
  | none => .error (.invalidDate year 1)

/-- The first day of a month and the first day of the next. -/
def monthBounds (year : Int) (month : Month) : Except Failure (MonthStart × MonthStart) :=
  match MonthStart.ofYear? year month with
  | none => .error (.invalidDate year month.number)
  | some start =>
      match start.nextMonth? with
      | none => .error (.invalidDate year month.number)
      | some next => .ok (start, next)

/-- The first day of a year and the first day of the next. -/
def yearBounds (year : Int) : Except Failure (MonthStart × MonthStart) :=
  match startOf year with
  | .error failure => .error failure
  | .ok start =>
      match start.nextYear? with
      | none => .error (.invalidDate year 1)
      | some next => .ok (start, next)

/-- The year after a year, which the greatest number of 32 bits does not have. -/
def following (year : Int32) : Int :=
  min (year.toInt + 1) Int32.maxValue.toInt

/--
The span between two years.  Their order is looked at first, then the first year, then the year
after the last.
-/
def between (start finish : Int32) : Except Failure YearSpan :=
  if ordered : start.toInt ≤ finish.toInt then
    if starts : firstYear ≤ start.toInt ∧ start.toInt ≤ lastYear then
      if ends : firstYear ≤ following finish ∧ following finish ≤ lastYear then
        .ok {
          first := start.toInt
          last := finish.toInt
          first_le_last := ordered
          first_exists := starts.1
          next_exists := by
            have bounded := ends.2
            have limit : Int32.maxValue.toInt = 2147483647 := by decide
            unfold following lastYear at *
            omega }
      else .error (.invalidDate (following finish) 1)
    else .error (.invalidDate start.toInt 1)
  else .error (.invalidRange start.toInt finish.toInt)

/-- The number of years of a span. -/
def length (span : YearSpan) : Nat :=
  (span.last - span.first).toNat + 1

/-- The years of a span in order. -/
def years (span : YearSpan) : List Int :=
  (List.range span.length).map fun index : Nat => span.first + (index : Int)

end YearSpan

end TablePartitioning
