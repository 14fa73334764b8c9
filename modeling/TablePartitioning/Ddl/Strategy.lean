import TablePartitioning.Ddl.AlterTable
import TablePartitioning.Ddl.PartitionOf

/-!
# The statements of a dialect

Each dialect writes its statements by one of two strategies.  A layout is written completely or
not at all: its statements are known before the first of them is sent.
-/

namespace TablePartitioning

/-- How statements are written. -/
inductive Strategy where
  | alterTable
  | partitionOf
deriving DecidableEq

namespace Strategy

open Ddl

/-- The name of a strategy. -/
def name : Strategy → String
  | .alterTable => "alter-table"
  | .partitionOf => "partition-of"

/-- The statements of a layout, in the order in which they are sent. -/
def render (strategy : Strategy) (table : TableName) (layout : Layout) :
    Except Failure (List String) :=
  match strategy, layout with
  | .alterTable, layout => (AlterTable.ofLayout table layout).map (·.map AlterTable.text)
  | .partitionOf, .parentTable column columnType method nullable =>
      .ok [PartitionOf.parentTable table column columnType method nullable]
  | .partitionOf, layout => (PartitionOf.ofLayout table layout).map (·.map PartitionOf.text)

/-- The statements that make the server number the rows of a column. -/
def autoIncrement (strategy : Strategy) (table : TableName) (field columnType : String) :
    List String :=
  match strategy with
  | .alterTable => [AlterTable.autoIncrement table field columnType]
  | .partitionOf => PartitionOf.autoIncrement table field

/-- The query for the partitions of a table. -/
def listing (strategy : Strategy) (schema table : String) : String :=
  match strategy with
  | .alterTable => AlterTable.listing schema table
  | .partitionOf => PartitionOf.listing schema table

end Strategy

/-- The strategy of a dialect. -/
def Dialect.strategy (dialect : Dialect) : Strategy :=
  if dialect.isDeclarative then .partitionOf else .alterTable

/-- The strategy for a server of which nothing but its kind is known. -/
def Backend.strategy : Backend → Strategy
  | .postgres => .partitionOf
  | _ => .alterTable

end TablePartitioning
