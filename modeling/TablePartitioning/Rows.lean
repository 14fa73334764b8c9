import TablePartitioning.Decoding.Strict
import TablePartitioning.Text.Numeral

/-!
# Rows that servers answer with

Three kinds of rows are read: those that describe partitions, those that report on maintenance, and
those that name a plugin.  The first two are written again when they are printed.
-/

namespace TablePartitioning

/-! ## Rows that describe partitions

Servers keep a row for each partition of a table.  Every column may be empty: a table that is not
divided has a row of its own without the name of a partition.
-/

/-- What a server tells of a partition. -/
structure PartitionInfo where
  name : Option String
  subpartition : Option String
  position : Option Nat
  rowEstimate : Option Int
  method : Option String
deriving DecidableEq

namespace PartitionInfo

open Json

/-- The columns of a row. -/
def shape : RecordShape Json PartitionInfo where
  name := "PartitionInfo"
  initial := ⟨none, none, none, none, none⟩
  allowsShorter := false
  fields := [
    { name := "PARTITION_NAME", aliases := [], required := false,
      store := fun value row =>
        (strict.optional asText value).map fun value => { row with name := value } },
    { name := "SUBPARTITION_NAME", aliases := [], required := false,
      store := fun value row =>
        (strict.optional asText value).map fun value => { row with subpartition := value } },
    { name := "PARTITION_ORDINAL_POSITION", aliases := [], required := false,
      store := fun value row =>
        (strict.optional (asNatural (Word.count 64) "u64") value).map fun value =>
          { row with position := value } },
    { name := "TABLE_ROWS", aliases := [], required := false,
      store := fun value row =>
        (strict.optional
          (asInteger (-Word.signedBound 64) (Word.signedBound 64) "i64") value).map fun value =>
            { row with rowEstimate := value } },
    { name := "PARTITION_METHOD", aliases := [], required := false,
      store := fun value row =>
        (strict.optional asText value).map fun value => { row with method := value } }]

/-- Read a row. -/
def ofJson (row : Json) : Except DecodeError PartitionInfo :=
  shape.decode strict row

/-- The row that is written for a partition. -/
def toJson (info : PartitionInfo) : Json :=
  .object [
    ("PARTITION_NAME", ofOption .string info.name),
    ("SUBPARTITION_NAME", ofOption .string info.subpartition),
    ("PARTITION_ORDINAL_POSITION", ofOption (fun position : Nat => .integer position) info.position),
    ("TABLE_ROWS", ofOption .integer info.rowEstimate),
    ("PARTITION_METHOD", ofOption .string info.method)]

end PartitionInfo

/-! ## Rows that report on maintenance

Operations that answer with rows tell for each partition what was done and how it went.  All four
columns are always there.
-/

/-- What a server reports on the maintenance of a partition. -/
structure MaintenanceReport where
  table : String
  operation : String
  messageType : String
  messageText : String
deriving DecidableEq

namespace MaintenanceReport

open Json

/-- The columns of a row. -/
def shape : RecordShape Json MaintenanceReport where
  name := "MaintenanceReport"
  initial := ⟨"", "", "", ""⟩
  allowsShorter := false
  fields := [
    { name := "Table", aliases := [], required := true,
      store := fun value row => (asText value).map fun value => { row with table := value } },
    { name := "Op", aliases := [], required := true,
      store := fun value row => (asText value).map fun value => { row with operation := value } },
    { name := "Msg_type", aliases := [], required := true,
      store := fun value row =>
        (asText value).map fun value => { row with messageType := value } },
    { name := "Msg_text", aliases := [], required := true,
      store := fun value row =>
        (asText value).map fun value => { row with messageText := value } }]

/-- Read a row. -/
def ofJson (row : Json) : Except DecodeError MaintenanceReport :=
  shape.decode strict row

/-- The row that is written for a report. -/
def toJson (report : MaintenanceReport) : Json :=
  .object [
    ("Table", .string report.table),
    ("Op", .string report.operation),
    ("Msg_type", .string report.messageType),
    ("Msg_text", .string report.messageText)]

end MaintenanceReport

/-! ## Rows that name plugins

A server lists the plugins that it has loaded; partitioning is one of them on some versions.
-/

namespace Plugin

open Json

/-- The one column of a row that counts. -/
def shape : RecordShape Json String where
  name := "PluginRow"
  initial := ""
  allowsShorter := false
  fields := [
    { name := "Name", aliases := [], required := true, store := fun value _ => asText value }]

/-- The name of the plugin in a row. -/
def nameOf (row : Json) : Except DecodeError String :=
  shape.decode strict row

/-- Whether a row names the plugin that partitions tables; rows of another form do not. -/
def isPartition (row : Json) : Bool :=
  match nameOf row with
  | .ok name => name == "partition"
  | .error _ => false

end Plugin

end TablePartitioning
