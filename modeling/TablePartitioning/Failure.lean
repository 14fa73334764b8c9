import TablePartitioning.Decoding.Error
import TablePartitioning.Definition
import TablePartitioning.Dialect
import TablePartitioning.Server.Backend

/-!
# Failures

Everything that keeps an operation on a partitioned table from being carried out.
-/

namespace TablePartitioning

/-- Why an operation fails. -/
inductive Failure where
  /-- The server does not partition tables. -/
  | unsupported
  | invalidRange (start finish : Int)
  /-- The calendar has no first day of the month. -/
  | invalidDate (year : Int) (month : Nat)
  | invalidDefinition (fault : DefinitionFault)
  /-- A way of partitioning that a dialect has no words for. -/
  | inexpressible (method : String) (dialect : Dialect)
  /-- The server refuses a statement. -/
  | statement (sql : String) (cause : DbError)
  /-- A row that the server answers is not of the expected form. -/
  | row (kind : String) (cause : DecodeError)

/-- The text of a failure. -/
def Failure.message : Failure → String
  | .unsupported => "Partitioning is unsupported on your server version"
  | .invalidRange start finish =>
      "start year " ++ Text.Numeral.ofInt start ++ " must not be greater than end year " ++
        Text.Numeral.ofInt finish
  | .invalidDate year month =>
      "no calendar date for " ++ Text.Numeral.ofInt year ++ "-" ++ Text.Numeral.padded 2 month ++
        "-01"
  | .invalidDefinition fault => "invalid partition definition: " ++ fault.message
  | .inexpressible method dialect =>
      method ++ " partitioning cannot be expressed in the " ++ dialect.name ++ " dialect"
  | .statement sql cause => "statement failed: " ++ sql ++ ": " ++ cause.message
  | .row kind cause => "failed to decode " ++ kind ++ " row: " ++ cause.message

end TablePartitioning
