/-!
# Months

The months carry the names that partitions are given.  Besides the order of the calendar there is
the order of the remainders of their numbers by twelve, in which December comes first.
-/

namespace TablePartitioning

/-- A month of the year. -/
inductive Month where
  | jan | feb | mar | apr | may | jun | jul | aug | sep | oct | nov | dec
deriving DecidableEq

namespace Month

/-- The number of a month, from one to twelve. -/
def number : Month → Nat
  | .jan => 1
  | .feb => 2
  | .mar => 3
  | .apr => 4
  | .may => 5
  | .jun => 6
  | .jul => 7
  | .aug => 8
  | .sep => 9
  | .oct => 10
  | .nov => 11
  | .dec => 12

/-- The name of a month in partition names. -/
def name : Month → String
  | .jan => "jan"
  | .feb => "feb"
  | .mar => "mar"
  | .apr => "apr"
  | .may => "may"
  | .jun => "jun"
  | .jul => "jul"
  | .aug => "aug"
  | .sep => "sep"
  | .oct => "oct"
  | .nov => "nov"
  | .dec => "dec"

/-- January to December. -/
def calendarOrder : List Month :=
  [.jan, .feb, .mar, .apr, .may, .jun, .jul, .aug, .sep, .oct, .nov, .dec]

/-- Rows of month `m` go to the subpartition at place `m % 12`, so December stands first. -/
def remainderOrder : List Month :=
  .dec :: calendarOrder.take 11

/-- The month with a number. -/
def ofNumber? (number : Nat) : Option Month :=
  calendarOrder.find? (·.number = number)

/-- The month after a month, within the year. -/
def next? : Month → Option Month
  | .jan => some .feb
  | .feb => some .mar
  | .mar => some .apr
  | .apr => some .may
  | .may => some .jun
  | .jun => some .jul
  | .jul => some .aug
  | .aug => some .sep
  | .sep => some .oct
  | .oct => some .nov
  | .nov => some .dec
  | .dec => none

/-- A month stands at the place of its remainder by twelve. -/
theorem remainderOrder_getElem? (month : Month) :
    remainderOrder[month.number % 12]? = some month := by
  cases month <;> rfl

end Month

end TablePartitioning
