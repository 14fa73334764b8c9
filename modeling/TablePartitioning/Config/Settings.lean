import TablePartitioning.Log.Settings
import TablePartitioning.Text.Numeral

/-!
# Settings of the program

The settings of the database connection and of the log.  Every setting has a default, and the
address of the database is known under three names.
-/

namespace TablePartitioning

/-- The settings of the database connection. -/
structure DbSettings where
  /-- The address of the database. -/
  url : String
  /-- The schema that names without schema are looked up in. -/
  schema : Option String
  sqlLogging : Bool
  sqlLoggingLevel : LogFilter
  maxConnections : Nat
  minConnections : Nat
  connectTimeoutSeconds : Nat
  acquireTimeoutSeconds : Nat
  slowStatementMilliseconds : Nat
deriving DecidableEq

namespace DbSettings

/-- What holds where nothing is set: statements are sent one by one over one connection. -/
def default : DbSettings where
  url := ""
  schema := none
  sqlLogging := false
  sqlLoggingLevel := .upTo .debug
  maxConnections := 1
  minConnections := 1
  connectTimeoutSeconds := 10
  acquireTimeoutSeconds := 10
  slowStatementMilliseconds := 5000

/-- The settings by their names. -/
def shape (source : Source Value) : RecordShape Value DbSettings where
  name := "DbConfig"
  initial := default
  allowsShorter := true
  fields := [
    { name := "url", aliases := ["database_url", "dsn"], required := false,
      store := fun value settings =>
        (source.text value).map fun value => { settings with url := value } },
    { name := "schema", aliases := [], required := false,
      store := fun value settings =>
        (source.optional source.text value).map fun value =>
          { settings with schema := value } },
    { name := "sqlx_logging", aliases := [], required := false,
      store := fun value settings =>
        (source.flag value).map fun value => { settings with sqlLogging := value } },
    { name := "sqlx_logging_level", aliases := [], required := false,
      store := fun value settings =>
        (source.named LogFilter.ofWord? LogFilter.unknown value).map fun value =>
          { settings with sqlLoggingLevel := value } },
    { name := "max_connections", aliases := [], required := false,
      store := fun value settings =>
        (source.natural (Word.count 32) "u32" value).map fun value =>
          { settings with maxConnections := value } },
    { name := "min_connections", aliases := [], required := false,
      store := fun value settings =>
        (source.natural (Word.count 32) "u32" value).map fun value =>
          { settings with minConnections := value } },
    { name := "connect_timeout_seconds", aliases := [], required := false,
      store := fun value settings =>
        (source.natural (Word.count 64) "u64" value).map fun value =>
          { settings with connectTimeoutSeconds := value } },
    { name := "acquire_timeout_seconds", aliases := [], required := false,
      store := fun value settings =>
        (source.natural (Word.count 64) "u64" value).map fun value =>
          { settings with acquireTimeoutSeconds := value } },
    { name := "slow_statement_threshold_ms", aliases := [], required := false,
      store := fun value settings =>
        (source.natural (Word.count 64) "u64" value).map fun value =>
          { settings with slowStatementMilliseconds := value } }]

/-- Read settings. -/
def decode (source : Source Value) (value : Value) : Except DecodeError DbSettings :=
  (shape source).decode source value

/-- The settings as they are written. -/
def toJson (settings : DbSettings) : Json :=
  let number (value : Nat) : Json := .integer value
  .object [
    ("url", .string settings.url),
    ("schema", Json.ofOption .string settings.schema),
    ("sqlx_logging", .bool settings.sqlLogging),
    ("sqlx_logging_level", .string settings.sqlLoggingLevel.word),
    ("max_connections", number settings.maxConnections),
    ("min_connections", number settings.minConnections),
    ("connect_timeout_seconds", number settings.connectTimeoutSeconds),
    ("acquire_timeout_seconds", number settings.acquireTimeoutSeconds),
    ("slow_statement_threshold_ms", number settings.slowStatementMilliseconds)]

end DbSettings

/-- The settings of the program. -/
structure AppSettings where
  db : DbSettings
  log : LogSettings
deriving DecidableEq

namespace AppSettings

/-- What holds where nothing is set. -/
def default : AppSettings := ⟨.default, .default⟩

/-- The settings by their names. -/
def shape (source : Source Value) : RecordShape Value AppSettings where
  name := "AppConfig"
  initial := default
  allowsShorter := true
  fields := [
    { name := "db", aliases := [], required := false,
      store := fun value settings =>
        (DbSettings.decode source value).map fun value => { settings with db := value } },
    { name := "log", aliases := [], required := false,
      store := fun value settings =>
        (LogSettings.decode source value).map fun value => { settings with log := value } }]

/-- Read settings. -/
def decode (source : Source Value) (value : Value) : Except DecodeError AppSettings :=
  (shape source).decode source value

/-- The settings as they are written. -/
def toJson (settings : AppSettings) : Json :=
  .object [("db", settings.db.toJson), ("log", settings.log.toJson)]

end AppSettings

end TablePartitioning
