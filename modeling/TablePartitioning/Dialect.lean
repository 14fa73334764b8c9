/-!
# Dialects

The families of partitioning statements, by the servers that understand them.  Servers of the
first three divide tables in place; those of the last attach tables to a parent table.
-/

namespace TablePartitioning

/-- A family of partitioning statements. -/
inductive Dialect where
  /-- MySQL from 5.1 to before 5.6, where a server variable tells of partitioning. -/
  | mysqlLegacy
  /-- MySQL from 5.6 to before 8.0, where partitioning is a plugin. -/
  | mysqlPlugin
  /-- MySQL from 8.0 on, which always has partitioning. -/
  | mysqlNative
  /-- PostgreSQL with declared partitions. -/
  | postgresDeclarative
deriving DecidableEq

namespace Dialect

/-- All dialects. -/
def all : List Dialect := [mysqlLegacy, mysqlPlugin, mysqlNative, postgresDeclarative]

/-- The name of a dialect. -/
def name : Dialect → String
  | .mysqlLegacy => "mysql-legacy"
  | .mysqlPlugin => "mysql-plugin"
  | .mysqlNative => "mysql-native"
  | .postgresDeclarative => "postgres-declarative"

/-- The dialect as events name it. -/
def label : Dialect → String
  | .mysqlLegacy => "MysqlLegacy"
  | .mysqlPlugin => "MysqlPlugin"
  | .mysqlNative => "MysqlNative"
  | .postgresDeclarative => "PostgresDeclarative"

/-- The dialect of a name; the name of a server alone stands for its newest dialect. -/
def ofName? (name : String) : Option Dialect :=
  if name = "mysql" then some .mysqlNative
  else if name = "postgres" then some .postgresDeclarative
  else all.find? (·.name = name)

/-- Whether partitions are tables of their own. -/
def isDeclarative : Dialect → Bool
  | .postgresDeclarative => true
  | _ => false

/-- A dialect is found by its name. -/
theorem ofName?_name (dialect : Dialect) : ofName? dialect.name = some dialect := by
  cases dialect <;> decide

end Dialect

end TablePartitioning
