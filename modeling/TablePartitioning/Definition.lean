import TablePartitioning.Identifier

/-!
# Partition definitions

A range partition is bounded by one expression from above; a list partition holds the values that
it lists.  The partition `future`, bounded by `MAXVALUE`, takes what all others leave.
-/

namespace TablePartitioning

/-- What the values of a definition mean. -/
inductive BoundKind where
  | range
  | list
deriving DecidableEq

/-- The word of a kind in statements and messages. -/
def BoundKind.word : BoundKind → String
  | .range => "RANGE"
  | .list => "LIST"

/-- The column function that rows are assigned by when a parent table is created. -/
inductive PartitionMethod where
  | range
  | list
  | hash
deriving DecidableEq

namespace PartitionMethod

/-- The word of a method in statements. -/
def word : PartitionMethod → String
  | .range => "RANGE"
  | .list => "LIST"
  | .hash => "HASH"

/-- All methods. -/
def all : List PartitionMethod := [.range, .list, .hash]

/-- The method of a word, in upper or lower case. -/
def ofWord? (word : String) : Option PartitionMethod :=
  all.find? fun method => Text.sameIgnoringCase method.word word

end PartitionMethod

/-- A partition as it is asked for. -/
structure Definition where
  name : String
  kind : BoundKind
  values : List String
deriving DecidableEq

/-- Why a list of definitions, or a count in its place, is refused. -/
inductive DefinitionFault where
  | noPartitions
  | zeroCount
  /-- The name of the partition that takes what is left. -/
  | reservedName
  /-- Nothing would be left beyond a partition without bound. -/
  | unbounded (name : String)
  | invalidName (name : String)
  | wrongKind (name : String) (kind expected : BoundKind)
  | emptyValue (name : String)
  | severalBounds (name : String)
  /-- Maintenance, by the word of its operation, of no partition at all. -/
  | nothingToMaintain (operation : String)
deriving DecidableEq

/-- The text of a fault. -/
def DefinitionFault.message : DefinitionFault → String
  | .noPartitions => "at least one partition definition is required"
  | .zeroCount => "partition count must be greater than zero"
  | .reservedName => "partition name \x60future\x60 is reserved for the future partition"
  | .unbounded name =>
      "partition " ++ name ++ " is bounded by MAXVALUE, nothing is left for the future partition"
  | .invalidName name => "\x60" ++ name ++ "\x60 is not a valid partition name"
  | .wrongKind name kind expected =>
      "partition " ++ name ++ " is " ++ kind.word ++ " but " ++ expected.word ++
        " partitioning was requested"
  | .emptyValue name => "partition " ++ name ++ " has an empty value"
  | .severalBounds name => "range partition " ++ name ++ " takes exactly one bound"
  | .nothingToMaintain operation => operation ++ " PARTITION needs at least one partition name"

namespace Definition

/-- The bound above all values. -/
def maxValue : String := "MAXVALUE"

/-- A range partition. -/
def range (name bound : String) : Definition := ⟨name, .range, [bound]⟩

/-- A list partition. -/
def list (name : String) (values : List String) : Definition := ⟨name, .list, values⟩

/-- The partition that takes what is left. -/
def future : Definition := range "future" maxValue

/-- The upper bound of a range partition. -/
def bound? (definition : Definition) : Option String :=
  match definition.kind with
  | .range => definition.values.head?
  | .list => none

/-- The definition as a clause of a statement. -/
def clause (definition : Definition) : String :=
  let values := ", ".intercalate definition.values
  match definition.kind with
  | .range => "PARTITION " ++ definition.name ++ " VALUES LESS THAN (" ++ values ++ ")"
  | .list => "PARTITION " ++ definition.name ++ " VALUES IN (" ++ values ++ ")"

/-- The clause of a range names its bound. -/
theorem clause_range (name bound : String) :
    (range name bound).clause =
      "PARTITION " ++ name ++ " VALUES LESS THAN (" ++ bound ++ ")" := rfl

/-- What is wrong with a definition of a kind, the name before the kind before the values. -/
def fault? (definition : Definition) (expected : BoundKind) : Option DefinitionFault :=
  if !Identifier.isValid definition.name then some (.invalidName definition.name)
  else if definition.kind ≠ expected then
    some (.wrongKind definition.name definition.kind expected)
  else if definition.values.isEmpty || definition.values.any Text.isBlankText then
    some (.emptyValue definition.name)
  else if definition.kind = .range && definition.values.length ≠ 1 then
    some (.severalBounds definition.name)
  else none

/-- Whether a bound is the one above all values, however it is written. -/
def isMaxValue (bound : String) : Bool :=
  Text.sameIgnoringCase (Text.trim bound) maxValue

/-- What keeps a definition from standing before the partition `future`. -/
def futureFault? (definition : Definition) : Option DefinitionFault :=
  if Identifier.unquoted definition.name = future.name then some .reservedName
  else if definition.bound?.any isMaxValue then some (.unbounded definition.name)
  else none

/-- The first fault of range definitions; the rules of `future` come before all others. -/
def rangeFault? (definitions : List Definition) (includeFuture : Bool) :
    Option DefinitionFault :=
  if definitions.isEmpty then some .noPartitions
  else
    match if includeFuture then definitions.findSome? futureFault? else none with
    | some fault => some fault
    | none => definitions.findSome? (·.fault? .range)

/-- The first fault of list definitions. -/
def listFault? (definitions : List Definition) : Option DefinitionFault :=
  if definitions.isEmpty then some .noPartitions
  else definitions.findSome? (·.fault? .list)

end Definition

end TablePartitioning
