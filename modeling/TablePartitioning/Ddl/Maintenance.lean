import TablePartitioning.Failure
import TablePartitioning.TableName

/-!
# Maintenance of partitions

One statement carries a maintenance operation out on the partitions that it names.  Some
operations answer with rows that report on each partition, the others with nothing.
-/

namespace TablePartitioning

/-- An operation on partitions that exist. -/
inductive Maintenance where
  | truncate
  | drop
  /-- Like dropping all rows and inserting them again. -/
  | rebuild
  /-- Gives unused room back. -/
  | optimize
  /-- Reads and stores how keys are spread. -/
  | analyze
  | repair
  | check
deriving DecidableEq

namespace Maintenance

/-- All operations. -/
def all : List Maintenance := [truncate, drop, rebuild, optimize, analyze, repair, check]

/-- The word of an operation in statements. -/
def word : Maintenance → String
  | .truncate => "TRUNCATE"
  | .drop => "DROP"
  | .rebuild => "REBUILD"
  | .optimize => "OPTIMIZE"
  | .analyze => "ANALYZE"
  | .repair => "REPAIR"
  | .check => "CHECK"

/-- The operation of a word, in upper or lower case. -/
def ofWord? (word : String) : Option Maintenance :=
  all.find? fun operation => Text.sameIgnoringCase operation.word word

/-- Whether the server answers with rows. -/
def returnsRows : Maintenance → Bool
  | .optimize | .analyze | .repair | .check => true
  | .truncate | .drop | .rebuild => false

/-- The statement of an operation; there has to be a partition to carry it out on. -/
def render (operation : Maintenance) (table : TableName) (partitions : List String) :
    Except Failure String :=
  if partitions.isEmpty then
    .error (.invalidDefinition (.nothingToMaintain operation.word))
  else
    .ok ("ALTER TABLE " ++ table.text ++ " " ++ operation.word ++ " PARTITION " ++
      ", ".intercalate partitions)

/-- An operation is found by its word. -/
theorem ofWord?_word (operation : Maintenance) : ofWord? operation.word = some operation := by
  cases operation <;> decide

end Maintenance

end TablePartitioning
