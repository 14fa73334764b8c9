import TablePartitioning.CommandLine.Grammar
import TablePartitioning.CommandLine.PartitionArgument
import TablePartitioning.Partitioner
import TablePartitioning.Text.Numeral

/-!
# The commands

Each operation has a command of its own.  All commands share one record of arguments, and each has
its options and the arguments that it cannot do without.
-/

namespace TablePartitioning.CommandLine

/-- The arguments of a command, as far as they are given. -/
structure Arguments where
  database : Option String
  table : Option String
  column : Option String
  columnType : Option String
  field : Option String
  method : Option PartitionMethod
  start : Option Int32
  finish : Option Int32
  count : Option Nat
  operation : Option Maintenance
  definitions : List Definition
  partitions : List String
  timestamp : Bool
  noFuture : Bool
  nullable : Bool

namespace Arguments

/-- No arguments are given. -/
def none : Arguments where
  database := .none
  table := .none
  column := .none
  columnType := .none
  field := .none
  method := .none
  start := .none
  finish := .none
  count := .none
  operation := .none
  definitions := []
  partitions := []
  timestamp := false
  noFuture := false
  nullable := false

end Arguments

/-- An option with a value that is read from a text. -/
def valueOption (long : String) (short : Option Char) (isSet : Record → Bool)
    (read : String → Option α) (set : α → Record → Record) : CommandOption Record where
  long
  short
  effect := .value isSet fun text arguments =>
    match read text with
    | some value => .ok (set value arguments)
    | none => .error (.invalidValue long text)

/-- A year, a number of 32 bits with or without a sign. -/
def year? (text : String) : Option Int32 :=
  (Text.Numeral.between? (-Word.signedBound 32) (Word.signedBound 32 - 1) text).map Int32.ofInt

/-- A number of partitions, which fits 32 bits. -/
def count? (text : String) : Option Nat :=
  (Text.Numeral.between? 0 (Word.count 32 - 1) text).map Int.toNat

/-- The help that every command has. -/
def helpOption : CommandOption Record := ⟨"help", some 'h', .help⟩

/-- The table. -/
def tableOption (short : Option Char) : CommandOption Arguments :=
  valueOption "table" short (·.table.isSome) some
    fun value arguments => { arguments with table := value }

/-- The column that rows are divided by. -/
def columnOption : CommandOption Arguments :=
  valueOption "column" (some 'c') (·.column.isSome) some
    fun value arguments => { arguments with column := value }

/-- The schema that the table is looked up in. -/
def databaseOption : CommandOption Arguments :=
  valueOption "db" none (·.database.isSome) some
    fun value arguments => { arguments with database := value }

/-- A partition, which may be given many times. -/
def partitionOption (parse : String → Except PartitionArgument.Refusal Definition) :
    CommandOption Arguments :=
  valueOption "partition" (some 'p') (fun _ => false) (fun text => (parse text).toOption)
    fun value arguments => { arguments with definitions := arguments.definitions ++ [value] }

/-- No partition for what is left. -/
def noFutureOption : CommandOption Arguments :=
  ⟨"no-future", none, .flag (·.noFuture) fun arguments => { arguments with noFuture := true }⟩

/-- The number of partitions. -/
def countOption : CommandOption Arguments :=
  valueOption "count" none (·.count.isSome) count?
    fun value arguments => { arguments with count := value }

/-- The first year, the last year, and what the column holds. -/
def yearOptions : List (CommandOption Arguments) :=
  [ valueOption "start" none (·.start.isSome) year?
      fun value arguments => { arguments with start := value },
    valueOption "end" none (·.finish.isSome) year?
      fun value arguments => { arguments with finish := value },
    ⟨"timestamp", none,
      .flag (·.timestamp) fun arguments => { arguments with timestamp := true }⟩ ]

/-- The type of a column. -/
def columnTypeOption : CommandOption Arguments :=
  valueOption "column-type" none (·.columnType.isSome) some
    fun value arguments => { arguments with columnType := value }

/-- How a parent table is divided. -/
def methodOption : CommandOption Arguments :=
  valueOption "method" none (·.method.isSome) PartitionMethod.ofWord?
    fun value arguments => { arguments with method := value }

/-- Whether the column of a parent table may be empty. -/
def nullableOption : CommandOption Arguments :=
  ⟨"nullable", none, .flag (·.nullable) fun arguments => { arguments with nullable := true }⟩

/-- The column whose rows are numbered. -/
def fieldOption : CommandOption Arguments :=
  valueOption "field" none (·.field.isSome) some
    fun value arguments => { arguments with field := value }

/-- The maintenance operation. -/
def operationOption : CommandOption Arguments :=
  valueOption "op" none (·.operation.isSome) Maintenance.ofWord?
    fun value arguments => { arguments with operation := value }

/-- A command. -/
structure Command where
  name : String
  options : List (CommandOption Arguments)
  /-- Plain words are names of partitions. -/
  takesPartitions : Bool
  /-- The operation, unless an argument is missing. -/
  operation? : Arguments → Option Operation

namespace Command

/-- A table and its column. -/
def target : List (CommandOption Arguments) := [tableOption (some 't'), columnOption]

/-- A request for the table of the arguments. -/
def creating (arguments : Arguments) (request : Request) : Option Operation :=
  arguments.table.map fun table => .create (.ofText table) request

/-- All commands. -/
def all : List Command := [
  { name := "check", options := [], takesPartitions := false,
    operation? := fun _ => some .havePartitioning },
  { name := "show", options := [databaseOption, tableOption none], takesPartitions := false,
    operation? := fun arguments => do
      return .listPartitions (← arguments.database) (← arguments.table) },
  { name := "range",
    options := target ++ [partitionOption PartitionArgument.parseRange, noFutureOption],
    takesPartitions := false,
    operation? := fun arguments => do
      if arguments.definitions.isEmpty then none
      creating arguments
        (.range (← arguments.column) arguments.definitions (!arguments.noFuture)) },
  { name := "list", options := target ++ [partitionOption PartitionArgument.parseList],
    takesPartitions := false,
    operation? := fun arguments => do
      if arguments.definitions.isEmpty then none
      creating arguments (.list (← arguments.column) arguments.definitions) },
  { name := "hash", options := target ++ [countOption], takesPartitions := false,
    operation? := fun arguments => do
      creating arguments (.hash (← arguments.column) (← arguments.count)) },
  { name := "key", options := [tableOption (some 't'), countOption], takesPartitions := false,
    operation? := fun arguments => do creating arguments (.key (← arguments.count)) },
  { name := "months", options := target, takesPartitions := false,
    operation? := fun arguments => do creating arguments (.months (← arguments.column)) },
  { name := "years", options := target ++ yearOptions, takesPartitions := false,
    operation? := fun arguments => do
      creating arguments
        (.years (← arguments.column) (← arguments.start) arguments.finish arguments.timestamp) },
  { name := "years-months", options := target ++ yearOptions ++ [noFutureOption],
    takesPartitions := false,
    operation? := fun arguments => do
      creating arguments
        (.yearsMonths (← arguments.column) (← arguments.start) arguments.finish
          (!arguments.noFuture) arguments.timestamp) },
  { name := "create-table",
    options := target ++ [columnTypeOption, methodOption, nullableOption],
    takesPartitions := false,
    operation? := fun arguments => do
      creating arguments
        (.parentTable (← arguments.column) (← arguments.columnType)
          (arguments.method.getD .range) arguments.nullable) },
  { name := "auto-increment",
    options := [tableOption (some 't'), fieldOption, columnTypeOption], takesPartitions := false,
    operation? := fun arguments => do
      return .forceAutoIncrement (.ofText (← arguments.table)) (arguments.field.getD "id")
        (arguments.columnType.getD "INTEGER") },
  { name := "maintain", options := [tableOption (some 't'), operationOption],
    takesPartitions := true,
    operation? := fun arguments => do
      if arguments.partitions.isEmpty then none
      return .maintain (.ofText (← arguments.table)) (← arguments.operation)
        arguments.partitions }]

/-- The command line after the name of a command. -/
def grammar (command : Command) : Grammar Arguments where
  options := helpOption :: command.options
  store? :=
    if command.takesPartitions then
      some fun word arguments => { arguments with partitions := arguments.partitions ++ [word] }
    else none
  commands := []

/-- Read the command line after the name of a command. -/
def read (command : Command) (words : List String) : Except UsageError Operation :=
  match command.grammar.read words (.initial .none) with
  | .error error => .error error
  | .ok (reader, _) =>
      match reader.settle with
      | .error error => .error error
      | .ok reader =>
          match command.operation? reader.arguments with
          | some operation => .ok operation
          | none => .error .missingArgument

end Command

end TablePartitioning.CommandLine
