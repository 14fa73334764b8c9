import TablePartitioning.Calendar.YearSpan

/-!
# Ways to lay a table out in partitions

A layout says how the rows of a table are divided.  Whether a dialect has words for it, and which,
is up to the dialect.
-/

namespace TablePartitioning

/-- The size of the buckets of a calendar layout. -/
inductive Granularity where
  | year
  /-- A bucket for each year, divided by months. -/
  | yearMonth
deriving DecidableEq

/-- Buckets by years. -/
structure CalendarBuckets where
  span : YearSpan
  granularity : Granularity
  /-- A partition for the years after the span, where the dialect has one. -/
  includeFuture : Bool
  /-- The column holds seconds since the epoch and not a date. -/
  timestamp : Bool

/-- A way to divide the rows of a table. -/
inductive Layout where
  | range (column : String) (definitions : List Definition) (includeFuture : Bool)
  | list (column : String) (definitions : List Definition)
  | hash (column : String) (count : Nat)
  /-- By the primary key. -/
  | key (count : Nat)
  | monthOfYear (column : String)
  | calendar (column : String) (buckets : CalendarBuckets)
  /-- A new table that partitions can be attached to. -/
  | parentTable (column columnType : String) (method : PartitionMethod) (nullable : Bool)

end TablePartitioning
