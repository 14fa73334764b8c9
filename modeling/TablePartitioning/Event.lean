import TablePartitioning.Ddl.Maintenance
import TablePartitioning.Dialect

/-!
# Events

What an operation lets be known while it runs.  An event has a level and named fields, one of
which is the message.
-/

namespace TablePartitioning

/-- How much an event matters. -/
inductive EventLevel where
  | warn
  | info
  | debug
deriving DecidableEq

/-- The word of a level. -/
def EventLevel.word : EventLevel → String
  | .warn => "WARN"
  | .info => "INFO"
  | .debug => "DEBUG"

/-- Something that happens in an operation. -/
inductive Event where
  /-- Servers of this kind never partition tables. -/
  | neverPartitions (backend : Backend)
  | unreadableVersion (version : String)
  | supported (version : String) (dialect : Dialect)
  | unsupported (version : String)
  | applying (operation : String) (table : TableName) (dialect : Dialect) (statements : Nat)
  | nothingToCreate (table : TableName) (dialect : Dialect)
  | forcingAutoIncrement (table : TableName) (field : String)
  | maintaining (table : TableName) (operation : Maintenance) (partitions : Nat)
  | executing (sql : String)
  | querying (sql : String)
deriving DecidableEq

namespace Event

/-- The level of an event. -/
def level : Event → EventLevel
  | .neverPartitions _ | .unreadableVersion _ | .unsupported _ => .warn
  | .supported _ _ | .applying _ _ _ _ | .forcingAutoIncrement _ _ | .maintaining _ _ _ => .info
  | .nothingToCreate _ _ | .executing _ | .querying _ => .debug

/-- The message of an event. -/
def message : Event → String
  | .neverPartitions _ => "backend has no table partitioning"
  | .unreadableVersion _ => "unrecognised server version"
  | .supported _ _ => "partitioning supported"
  | .unsupported _ => "partitioning unsupported"
  | .applying _ _ _ _ => "applying partition ddl"
  | .nothingToCreate _ _ => "tables are partitioned in place, nothing to create"
  | .forcingAutoIncrement _ _ => "forcing auto increment"
  | .maintaining _ _ _ => "partition maintenance"
  | .executing _ => "execute"
  | .querying _ => "query"

/-- The fields of an event besides its message. -/
def details : Event → List (String × String)
  | .neverPartitions backend => [("backend", backend.label)]
  | .unreadableVersion version => [("version", version)]
  | .supported version dialect =>
      [("version", version), ("dialect", "Some(" ++ dialect.label ++ ")")]
  | .unsupported version => [("version", version)]
  | .applying operation table dialect statements =>
      [("operation", operation), ("table", table.text), ("dialect", dialect.name),
        ("statements", statements.repr)]
  | .nothingToCreate table dialect => [("table", table.text), ("dialect", dialect.name)]
  | .forcingAutoIncrement table field => [("table", table.text), ("field", field)]
  | .maintaining table operation partitions =>
      [("table", table.text), ("op", operation.word), ("partitions", partitions.repr)]
  | .executing sql => [("sql", sql)]
  | .querying sql => [("sql", sql)]

end Event

end TablePartitioning
