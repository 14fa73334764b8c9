import TablePartitioning.Ddl.Fragments
import TablePartitioning.Ddl.Layout
import TablePartitioning.TableName

/-!
# Partitioning in place

A table is divided where it stands, by one statement `ALTER TABLE … PARTITION BY …`.  Its clauses
give each partition an upper bound or a list of values; the partition before bounds it from below.
-/

namespace TablePartitioning.Ddl

/-- A partition of the statement, with the names of its subpartitions. -/
structure PartitionClause where
  definition : Definition
  subpartitions : List String
deriving DecidableEq

namespace PartitionClause

/-- A partition that is not divided further. -/
def ofDefinition (definition : Definition) : PartitionClause := ⟨definition, []⟩

/-- The subpartitions of a clause, by their names. -/
def subpartitionList (names : List String) : ClauseList :=
  ⟨names.map ("SUBPARTITION " ++ ·)⟩

/-- The clause as the statement shows it. -/
def text (clause : PartitionClause) : String :=
  if clause.subpartitions.isEmpty then clause.definition.clause
  else clause.definition.clause ++ " " ++ (subpartitionList clause.subpartitions).text

end PartitionClause

/-- The partitions of the statement: listed, or numbered up to a count. -/
inductive PartitionBody where
  | clauses (list : List PartitionClause)
  | count (number : Nat)
deriving DecidableEq

/-- The end of the statement. -/
def PartitionBody.text : PartitionBody → String
  | .clauses list => (ClauseList.mk (list.map PartitionClause.text)).text
  | .count number => "PARTITIONS " ++ number.repr

/-- A statement that divides a table in place. -/
structure AlterTable where
  table : TableName
  /-- The function that rows are assigned to partitions by. -/
  method : String
  /-- The function that rows are assigned to subpartitions by. -/
  submethod : Option String
  body : PartitionBody
deriving DecidableEq

namespace AlterTable

/-- The text of the statement. -/
def text (statement : AlterTable) : String :=
  ((((Fragments.ofHead ("ALTER TABLE " ++ statement.table.text)).push
    ("PARTITION BY " ++ statement.method)).push
    ((statement.submethod.map ("SUBPARTITION BY " ++ ·)).getD "")).push
    statement.body.text).text

/-- Clauses for definitions, with the partition `future` at the end where it is wanted. -/
def clausesOf (definitions : List Definition) (includeFuture : Bool) : List PartitionClause :=
  (definitions ++ if includeFuture then [Definition.future] else []).map
    PartitionClause.ofDefinition

/-- Partitions by ranges of an expression. -/
def range
    (table : TableName) (expression : String) (definitions : List Definition)
    (includeFuture : Bool) :
    Except Failure AlterTable :=
  match Definition.rangeFault? definitions includeFuture with
  | some fault => .error (.invalidDefinition fault)
  | none =>
      .ok ⟨table, "RANGE(" ++ expression ++ ")", none,
        .clauses (clausesOf definitions includeFuture)⟩

/-- Partitions by listed values. -/
def list (table : TableName) (column : String) (definitions : List Definition) :
    Except Failure AlterTable :=
  match Definition.listFault? definitions with
  | some fault => .error (.invalidDefinition fault)
  | none =>
      .ok ⟨table, "LIST(" ++ column ++ ")", none, .clauses (clausesOf definitions false)⟩

/-- A number of partitions that rows are spread over by a function. -/
def counted (table : TableName) (method : String) (count : Nat) : Except Failure AlterTable :=
  if count = 0 then .error (.invalidDefinition .zeroCount)
  else .ok ⟨table, method, none, .count count⟩

/-- One partition for each month, named like the month between backquotes. -/
def monthOfYear (table : TableName) (column : String) : AlterTable :=
  let definition (month : Month) : Definition :=
    .range ("\x60" ++ month.name ++ "\x60") (month.number + 1).repr
  ⟨table, "RANGE(MONTH(" ++ column ++ "))", none,
    .clauses (Month.calendarOrder.map fun month => .ofDefinition (definition month))⟩

/-- The expression whose value is compared with the bounds of years. -/
def yearExpression (column : String) (timestamp : Bool) : String :=
  if timestamp then "UNIX_TIMESTAMP(" ++ column ++ ")" else "YEAR(" ++ column ++ ")"

/-- The bound of a year: the year after it, or the second that the year after it begins with. -/
def yearBound (year : Int) (timestamp : Bool) : String :=
  let next := Text.Numeral.ofInt (year + 1)
  if timestamp then "UNIX_TIMESTAMP('" ++ next ++ "-01-01 00:00:00')" else next

/-- The partition of a year. -/
def yearDefinition (timestamp : Bool) (year : Int) : Definition :=
  .range ("year" ++ Text.Numeral.ofInt year) (yearBound year timestamp)

/-- The partition of a year, divided by months that carry the year in their names. -/
def yearMonthClause (timestamp : Bool) (year : Int) : PartitionClause :=
  ⟨yearDefinition timestamp year,
    Month.remainderOrder.map fun month => month.name ++ Text.Numeral.ofInt year⟩

/-- The partition `future`, divided by months as well. -/
def futureMonthClause : PartitionClause :=
  ⟨Definition.future, Month.remainderOrder.map fun month => "\x60" ++ month.name ++ "\x60"⟩

/-- Partitions by years. -/
def calendar (table : TableName) (column : String) (buckets : CalendarBuckets) :
    Except Failure AlterTable :=
  let expression := yearExpression column buckets.timestamp
  let years := buckets.span.years
  match buckets.granularity with
  | .year =>
      range table expression (years.map (yearDefinition buckets.timestamp)) buckets.includeFuture
  | .yearMonth =>
      .ok ⟨table, "RANGE(" ++ expression ++ ")", some ("HASH(MONTH(" ++ column ++ "))"),
        .clauses (years.map (yearMonthClause buckets.timestamp) ++
          if buckets.includeFuture then [futureMonthClause] else [])⟩

/-- The statement of a layout; a parent table needs none. -/
def ofLayout (table : TableName) : Layout → Except Failure (List AlterTable)
  | .range column definitions includeFuture =>
      (range table column definitions includeFuture).map ([·])
  | .list column definitions => (list table column definitions).map ([·])
  | .hash column count => (counted table ("HASH(" ++ column ++ ")") count).map ([·])
  | .key count => (counted table "KEY()" count).map ([·])
  | .monthOfYear column => .ok [monthOfYear table column]
  | .calendar column buckets => (calendar table column buckets).map ([·])
  | .parentTable _ _ _ _ => .ok []

/-- The statement that makes the server number the rows of a column. -/
def autoIncrement (table : TableName) (field columnType : String) : String :=
  "ALTER TABLE " ++ table.text ++ " MODIFY " ++ field ++ " " ++ columnType ++
    " NOT NULL AUTO_INCREMENT"

/-- The query for the partitions of a table. -/
def listing (schema table : String) : String :=
  "SELECT \x60PARTITION_NAME\x60, \x60SUBPARTITION_NAME\x60, " ++
    "\x60PARTITION_ORDINAL_POSITION\x60, \x60TABLE_ROWS\x60, \x60PARTITION_METHOD\x60 " ++
    "FROM \x60information_schema\x60.\x60PARTITIONS\x60 WHERE \x60TABLE_SCHEMA\x60 = " ++
    Literal.quote schema ++ " AND \x60TABLE_NAME\x60 = " ++ Literal.quote table

end AlterTable

end TablePartitioning.Ddl
