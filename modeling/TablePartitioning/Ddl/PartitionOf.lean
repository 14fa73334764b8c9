import TablePartitioning.Ddl.Fragments
import TablePartitioning.Ddl.Layout
import TablePartitioning.TableName

/-!
# Partitions as tables of their own

A parent table declares how it is divided, and each partition is a table `CREATE TABLE …
PARTITION OF …` with the values it holds.  A range is given by both ends, the lower one included,
so that the upper end of a partition is the lower end of the next.
-/

namespace TablePartitioning.Ddl

/-- The values that a partition holds. -/
inductive HeldValues where
  /-- From a value on, up to another that is excluded. -/
  | range (start finish : String)
  | list (values : List String)
  | hash (modulus remainder : Nat)
deriving DecidableEq

namespace HeldValues

/-- The values as the statement shows them. -/
def text : HeldValues → String
  | .range start finish => "FOR VALUES FROM (" ++ start ++ ") TO (" ++ finish ++ ")"
  | .list values => "FOR VALUES IN " ++ (ClauseList.mk values).text
  | .hash modulus remainder =>
      "FOR VALUES WITH (MODULUS " ++ modulus.repr ++ ", REMAINDER " ++ remainder.repr ++ ")"

/-- The days from one to another. -/
def dates (bounds : MonthStart × MonthStart) : HeldValues :=
  .range (Literal.quote bounds.1.text) (Literal.quote bounds.2.text)

end HeldValues

/-- A statement that creates one partition. -/
structure PartitionOf where
  parent : TableName
  /-- What the name of the partition adds to the name of its parent. -/
  label : String
  values : HeldValues
deriving DecidableEq

namespace PartitionOf

/-- The table that is created. -/
def child (statement : PartitionOf) : TableName :=
  statement.parent.child statement.label

/-- The text of the statement. -/
def text (statement : PartitionOf) : String :=
  (((Fragments.ofHead ("CREATE TABLE " ++ statement.child.text)).push
    ("PARTITION OF " ++ statement.parent.text)).push statement.values.text).text

/-- The value below all others. -/
def minValue : String := "MINVALUE"

/-- The label of a definition: its name without backquotes. -/
def labelOf (definition : Definition) : String :=
  Identifier.unquoted definition.name

/--
Ranges from a lower end on, each beginning where the one before it ends; the last one, named
`future`, has no end.
-/
def chain (parent : TableName) (includeFuture : Bool) :
    String → List Definition → List PartitionOf
  | lower, [] =>
      if includeFuture then
        [⟨parent, Definition.future.name, .range lower Definition.maxValue⟩]
      else []
  | lower, definition :: rest =>
      let upper := definition.bound?.getD Definition.maxValue
      ⟨parent, labelOf definition, .range lower upper⟩ :: chain parent includeFuture upper rest

/-- Partitions by ranges. -/
def range (table : TableName) (definitions : List Definition) (includeFuture : Bool) :
    Except Failure (List PartitionOf) :=
  match Definition.rangeFault? definitions includeFuture with
  | some fault => .error (.invalidDefinition fault)
  | none => .ok (chain table includeFuture minValue definitions)

/-- Partitions by listed values. -/
def list (table : TableName) (definitions : List Definition) :
    Except Failure (List PartitionOf) :=
  match Definition.listFault? definitions with
  | some fault => .error (.invalidDefinition fault)
  | none =>
      .ok (definitions.map fun definition =>
        ⟨table, labelOf definition, .list definition.values⟩)

/-- One partition for each remainder of a hash. -/
def hash (table : TableName) (count : Nat) : Except Failure (List PartitionOf) :=
  if count = 0 then .error (.invalidDefinition .zeroCount)
  else
    .ok ((List.range count).map fun remainder =>
      ⟨table, "p" ++ remainder.repr, .hash count remainder⟩)

/-- One partition for each month of the year. -/
def monthOfYear (table : TableName) : List PartitionOf :=
  Month.calendarOrder.map fun month =>
    ⟨table, month.name, .range month.number.repr (month.number + 1).repr⟩

/-- The partition of a year. -/
def ofYear (table : TableName) (year : Int) : Except Failure PartitionOf :=
  (YearSpan.yearBounds year).map fun bounds =>
    ⟨table, Text.Numeral.ofInt year, .dates bounds⟩

/-- The partition of a month of a year. -/
def ofMonth (table : TableName) (year : Int) (month : Month) : Except Failure PartitionOf :=
  (YearSpan.monthBounds year month).map fun bounds =>
    ⟨table, month.name ++ Text.Numeral.ofInt year, .dates bounds⟩

/-- Partitions by years; there is none for the years after the span. -/
def calendar (table : TableName) (buckets : CalendarBuckets) :
    Except Failure (List PartitionOf) :=
  match buckets.granularity with
  | .year => buckets.span.years.mapM (ofYear table)
  | .yearMonth =>
      (buckets.span.years.flatMap fun year =>
        Month.calendarOrder.map fun month => (year, month)).mapM
          fun (year, month) => ofMonth table year month

/-- The statement that creates a parent table with its one column. -/
def parentTable
    (table : TableName) (column columnType : String) (method : PartitionMethod)
    (nullable : Bool) : String :=
  let declaration :=
    (((Fragments.ofHead column).push columnType).pushIf (!nullable) "NOT NULL").text
  ((Fragments.ofHead ("CREATE TABLE " ++ table.text ++ " (" ++ declaration ++ ")")).push
    ("PARTITION BY " ++ method.word ++ " (" ++ column ++ ")")).text

/-- The statements of the partitions of a layout. -/
def ofLayout (table : TableName) : Layout → Except Failure (List PartitionOf)
  | .range _ definitions includeFuture => range table definitions includeFuture
  | .list _ definitions => list table definitions
  | .hash _ count => hash table count
  | .key _ => .error (.inexpressible "KEY" .postgresDeclarative)
  | .monthOfYear _ => .ok (monthOfYear table)
  | .calendar _ buckets => calendar table buckets
  | .parentTable _ _ _ _ => .ok []

/-- The sequence that numbers the rows of a column. -/
def sequence (table : TableName) (field : String) : TableName :=
  table.child (field ++ "_seq")

/--
The statements that number the rows of a column: a sequence is created, set to the greatest number
in use, made the source of new numbers, and tied to the column.
-/
def autoIncrement (table : TableName) (field : String) : List String :=
  let name := (sequence table field).text
  let literal := Literal.quote name
  [ "CREATE SEQUENCE IF NOT EXISTS " ++ name,
    "SELECT SETVAL(" ++ literal ++ ", (SELECT max(" ++ field ++ ") FROM " ++ table.text ++ "))",
    "ALTER TABLE " ++ table.text ++ " ALTER COLUMN " ++ field ++ " SET DEFAULT nextval(" ++
      literal ++ "::regclass)",
    "ALTER SEQUENCE " ++ name ++ " OWNED BY " ++ table.text ++ "." ++ field ]

/-- The lines of the query for the partitions of a table, up to the schema. -/
def listingStart : List String :=
  [ "",
    "SELECT child.relname AS \"PARTITION_NAME\",",
    "       NULL::text AS \"SUBPARTITION_NAME\",",
    "       ROW_NUMBER() OVER (ORDER BY child.relname) AS \"PARTITION_ORDINAL_POSITION\",",
    "       child.reltuples::bigint AS \"TABLE_ROWS\",",
    "       CASE pt.partstrat WHEN 'r' THEN 'RANGE' WHEN 'l' THEN 'LIST' WHEN 'h' THEN 'HASH' " ++
      "END AS \"PARTITION_METHOD\"",
    "FROM pg_inherits",
    "JOIN pg_class parent ON pg_inherits.inhparent = parent.oid",
    "JOIN pg_class child ON pg_inherits.inhrelid = child.oid",
    "JOIN pg_namespace ns ON parent.relnamespace = ns.oid",
    "LEFT JOIN pg_partitioned_table pt ON pt.partrelid = parent.oid",
    "WHERE ns.nspname = " ]

/-- The lines of that query after the table. -/
def listingEnd : List String := ["", "ORDER BY child.relname", ""]

/-- The break between two lines of a query, with the indentation of the second. -/
def lineBreak : String := "\n            "

/-- The query for the partitions of a table. -/
def listing (schema table : String) : String :=
  lineBreak.intercalate listingStart ++ Literal.quote schema ++ " AND parent.relname = " ++
    Literal.quote table ++ lineBreak.intercalate listingEnd

end PartitionOf

end TablePartitioning.Ddl
