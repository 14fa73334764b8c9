import TablePartitioning.CommandLine.Command

/-!
# Invocations of the program

A command line has options for the whole program, a command, and what belongs to the command.  The
command is read to its end before a value is looked at that stands in the word before it.
-/

namespace TablePartitioning.CommandLine

/-- What the program is asked to do. -/
structure Invocation where
  /-- The path of the configuration file. -/
  config : Option String
  logLevel : Option String
  /-- Statements are printed and not sent. -/
  dryRun : Bool
  /-- The dialect is given and not asked for. -/
  dialect : Option Dialect
  operation : Operation

/-- The options for the whole program. -/
structure GlobalArguments where
  config : Option String
  logLevel : Option String
  dryRun : Bool
  dialect : Option Dialect

namespace GlobalArguments

/-- No options are given. -/
def none : GlobalArguments := ⟨.none, .none, false, .none⟩

/-- The path of the configuration file, which is not empty. -/
def storeConfig (path : String) (arguments : GlobalArguments) :
    Except UsageError GlobalArguments :=
  if path = "" then .error (.missingValue "config")
  else .ok { arguments with config := some path }

/-- The command line up to the command. -/
def grammar : Grammar GlobalArguments where
  options := [
    ⟨"config", .none, .value (·.config.isSome) storeConfig⟩,
    valueOption "log-level" .none (·.logLevel.isSome) some
      fun value arguments => { arguments with logLevel := value },
    ⟨"dry-run", .none, .flag (·.dryRun) fun arguments => { arguments with dryRun := true }⟩,
    valueOption "dialect" .none (·.dialect.isSome) Dialect.ofName?
      fun value arguments => { arguments with dialect := value },
    helpOption,
    ⟨"version", some 'V', .version⟩]
  store? := .none
  commands := "help" :: Command.all.map (·.name)

/-- Settle what is left, and take the path of the configuration file from elsewhere if need be. -/
def finish (fallback : Option String) (reader : Reader GlobalArguments) :
    Except UsageError (Reader GlobalArguments) :=
  match reader.settle with
  | .error error => .error error
  | .ok reader =>
      match reader.arguments.config, fallback with
      | .none, some path =>
          (storeConfig path reader.arguments).map fun arguments =>
            { reader with arguments := arguments, given := true }
      | _, _ => .ok reader

end GlobalArguments

namespace Invocation

/-- Whether the words after `help` name at most one command. -/
def isHelpTopic : List String → Bool
  | [] => true
  | [word] => GlobalArguments.grammar.commands.contains word
  | _ => false

/-- Read a command and what belongs to it. -/
def readCommand (name : String) (words : List String) : Except UsageError Operation :=
  if name = "help" then
    if isHelpTopic words then .error .helpRequested
    else .error (.unknownCommand (" ".intercalate words))
  else
    match Command.all.find? (·.name = name) with
    | some command => command.read words
    | none => .error (.unknownCommand name)

/-- Read a command line; the path of the configuration file may be given elsewhere. -/
def parse (fallback : Option String) (words : List String) : Except UsageError Invocation := do
  match ← GlobalArguments.grammar.read words (.initial .none) with
  | (reader, some (name, rest)) =>
      let operation ← readCommand name rest
      let reader ← GlobalArguments.finish fallback reader
      let arguments := reader.arguments
      if arguments.dryRun && arguments.dialect.isNone then .error .missingArgument
      else
        return {
          config := arguments.config
          logLevel := arguments.logLevel
          dryRun := arguments.dryRun
          dialect := arguments.dialect
          operation }
  | (reader, none) =>
      let reader ← GlobalArguments.finish fallback reader
      .error (if reader.given then .missingCommand else .nothingGiven)

end Invocation

end TablePartitioning.CommandLine
