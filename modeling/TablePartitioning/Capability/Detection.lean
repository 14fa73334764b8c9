import TablePartitioning.Capability.Support
import TablePartitioning.Rows
import TablePartitioning.Server.Backend
import TablePartitioning.Server.Dialogue

/-!
# Looking at a server and remembering what it can do

Some kinds of server partition tables always and some never.  The others are asked for their
version, and where that leaves it open, whether they have partitioning on board.  A cache keeps what
has been found out.
-/

namespace TablePartitioning

namespace Detection

/-- The query for the version. -/
def versionSql : String := "SELECT version()"

/-- The query for the plugins that are loaded. -/
def pluginsSql : String := "SHOW PLUGINS"

/-- The query for the variable that tells of partitioning. -/
def variableSql : String := "SHOW VARIABLES LIKE 'have_partitioning'"

/-- End with what has been found out. -/
def conclude (version : String) (support : Support) : Dialogue (Except Failure Support) :=
  let event :=
    match support with
    | .supported dialect => Event.supported version dialect
    | .unsupported _ => Event.unsupported version
  .note event (.done (.ok support))

/-- Ask for rows, and conclude from them. -/
def ask (version sql : String) (judge : List Json → Support) :
    Dialogue (Except Failure Support) :=
  .query sql fun answer =>
    match answer with
    | .error cause => .done (.error (.statement sql cause))
    | .ok rows => conclude version (judge rows)

/-- Partitioning is a plugin that has to be loaded. -/
def judgePlugins (rows : List Json) : Support :=
  if rows.any Plugin.isPartition then .supported .mysqlPlugin
  else .unsupported (some .mysqlPlugin)

/-- Partitioning shows in a variable that has to exist. -/
def judgeVariables (rows : List Json) : Support :=
  if rows.isEmpty then .unsupported (some .mysqlLegacy) else .supported .mysqlLegacy

/-- Conclude from the version, or ask on. -/
def byVersion (text : String) : Dialogue (Except Failure Support) :=
  match ServerVersion.ofText? text with
  | none => .note (.unreadableVersion text) (.done (.ok (.unsupported none)))
  | some version =>
      if version.atLeast 8 0 then conclude text (.supported .mysqlNative)
      else if version.atLeast 5 6 then ask text pluginsSql judgePlugins
      else if version.atLeast 5 1 then ask text variableSql judgeVariables
      else conclude text (.unsupported none)

/-- Find out whether a server partitions tables. -/
def detect : Backend → Dialogue (Except Failure Support)
  | .postgres => .done (.ok (.supported .postgresDeclarative))
  | .sqlite => .note (.neverPartitions .sqlite) (.done (.ok (.unsupported none)))
  | .mysql =>
      .version fun answer =>
        match answer with
        | .error cause => .done (.error (.statement versionSql cause))
        | .ok text => byVersion text

end Detection

/-! ## What is remembered

A cache is filled by the first detection that succeeds and then answers without asking the server,
until it is emptied.  A detection that fails leaves it empty.
-/

/-- What is remembered of a server. -/
structure Cache where
  known : Option Support
deriving DecidableEq

namespace Cache

/-- Nothing is remembered. -/
def empty : Cache := ⟨none⟩

/-- A dialect is taken for granted. -/
def ofDialect (dialect : Dialect) : Cache := ⟨some (.supported dialect)⟩

/-- What is known, without asking the server. -/
def peek (cache : Cache) : Capability := Capability.ofOption cache.known

/-- What is remembered, or else what a detection finds out, which is remembered then. -/
def resolve (cache : Cache) (backend : Backend) : Dialogue (Except Failure Support × Cache) :=
  match cache.known with
  | some support => .done (.ok support, cache)
  | none =>
      (Detection.detect backend).bind fun
        | .ok support => .done (.ok support, ⟨some support⟩)
        | .error failure => .done (.error failure, cache)

end Cache

end TablePartitioning
