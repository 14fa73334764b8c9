import TablePartitioning.Text.Basic
import TablePartitioning.Text.Numeral

/-!
# Database servers, their errors and their versions

The kinds of server that a connection may lead to, the errors that a connection reports, and the
versions that servers tell.
-/

namespace TablePartitioning

/-- The kind of a server. -/
inductive Backend where
  | mysql
  | postgres
  | sqlite
deriving DecidableEq

/-- The kind as events name it. -/
def Backend.label : Backend → String
  | .mysql => "MySql"
  | .postgres => "Postgres"
  | .sqlite => "Sqlite"

/-- An error of a connection, with the server's own words. -/
inductive DbError where
  | custom (detail : String)
  | query (detail : String)
  | execution (detail : String)
  | type (detail : String)
  | recordNotFound (detail : String)
deriving DecidableEq

/-- The text of an error. -/
def DbError.message : DbError → String
  | .custom detail => "Custom Error: " ++ detail
  | .query detail => "Query Error: " ++ detail
  | .execution detail => "Execution Error: " ++ detail
  | .type detail => "Type Error: " ++ detail
  | .recordNotFound detail => "RecordNotFound Error: " ++ detail

/-! ## Versions of servers

A server tells its version in a text like `5.7.0-log`, of which the numbers before and after the
first point count.
-/

/-- The first two numbers of a version. -/
structure ServerVersion where
  major : Nat
  minor : Nat
deriving DecidableEq

namespace ServerVersion

/--
Read a version.  Each number is the digits that its part starts with; the second is zero where
its part has none, and neither can be larger than 32 bits.
-/
def ofText? (text : String) : Option ServerVersion :=
  match (Text.trimWhere Text.isBlank text.toList).splitOn '.' with
  | [] => none
  | first :: rest =>
      (Text.Numeral.leadingBelow? (Word.count 32) first).map fun major =>
        let minor := rest.head?.bind (Text.Numeral.leadingBelow? (Word.count 32))
        ⟨major, minor.getD 0⟩

/-- The order of versions: the first numbers decide unless they are equal. -/
def compare (left right : ServerVersion) : Ordering :=
  (Ord.compare left.major right.major).then (Ord.compare left.minor right.minor)

/-- Whether a version is at least another. -/
def atLeast (version : ServerVersion) (major minor : Nat) : Bool :=
  version.compare ⟨major, minor⟩ != .lt

end ServerVersion

end TablePartitioning
