import TablePartitioning.Calendar.Month
import TablePartitioning.Text.Numeral

/-!
# Dates

Buckets begin and end on the first day of a month.  The calendar has the years from -262143 to
262142; the next month of its last month does not exist.
-/

namespace TablePartitioning

/-- The years that have dates. -/
def firstYear : Int := -262143

/-- The last year that has dates. -/
def lastYear : Int := 262142

/-- Whether the calendar has a year. -/
def isCalendarYear (year : Int) : Bool :=
  firstYear ≤ year && year ≤ lastYear

/-- The first day of a month. -/
structure MonthStart where
  year : Int
  month : Month
deriving DecidableEq

namespace MonthStart

/-- The first day of a month, if the calendar has its year. -/
def ofYear? (year : Int) (month : Month) : Option MonthStart :=
  if isCalendarYear year then some ⟨year, month⟩ else none

/-- The first day of the next month. -/
def nextMonth? (start : MonthStart) : Option MonthStart :=
  match start.month.next? with
  | some month => some ⟨start.year, month⟩
  | none => ofYear? (start.year + 1) .jan

/-- The same day a year later. -/
def nextYear? (start : MonthStart) : Option MonthStart :=
  ofYear? (start.year + 1) start.month

end MonthStart

/--
The text of a year: four digits from 0 to 9999; outside, a sign and at least four digits.
-/
def yearText (year : Int) : String :=
  if year < 0 then "-" ++ Text.Numeral.padded 4 year.natAbs
  else if year ≤ 9999 then Text.Numeral.padded 4 year.natAbs
  else "+" ++ Text.Numeral.padded 4 year.natAbs

/-- The text of a date: year, month and day, joined by dashes. -/
def MonthStart.text (start : MonthStart) : String :=
  yearText start.year ++ "-" ++ Text.Numeral.padded 2 start.month.number ++ "-01"

end TablePartitioning
