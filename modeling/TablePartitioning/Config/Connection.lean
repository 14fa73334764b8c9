import TablePartitioning.Config.Settings

/-!
# How a database is connected to

The settings of the database as a connection takes them: all times are in milliseconds, and a
statement that takes long is reported as a warning.
-/

namespace TablePartitioning

/-- How a database is connected to. -/
structure ConnectOptions where
  url : String
  maxConnections : Nat
  minConnections : Nat
  sqlLogging : Bool
  sqlLoggingLevel : LogFilter
  slowLevel : LogFilter
  connectTimeoutMilliseconds : Nat
  acquireTimeoutMilliseconds : Nat
  /-- Connections that are not used are kept open without end. -/
  idleTimeoutMilliseconds : Option Nat
  slowMilliseconds : Nat
  /-- The schema that names without schema are looked up in. -/
  searchPath : Option String
deriving DecidableEq

/-- The connection that settings ask for. -/
def DbSettings.connectOptions (settings : DbSettings) : ConnectOptions where
  url := settings.url
  maxConnections := settings.maxConnections
  minConnections := settings.minConnections
  sqlLogging := settings.sqlLogging
  sqlLoggingLevel := settings.sqlLoggingLevel
  slowLevel := .upTo .warn
  connectTimeoutMilliseconds := settings.connectTimeoutSeconds * 1000
  acquireTimeoutMilliseconds := settings.acquireTimeoutSeconds * 1000
  idleTimeoutMilliseconds := none
  slowMilliseconds := settings.slowStatementMilliseconds
  searchPath := settings.schema

end TablePartitioning
