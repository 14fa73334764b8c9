import TablePartitioning.CommandLine.Invocation
import TablePartitioning.CommandLine.Printing
import TablePartitioning.Config.Layers
import TablePartitioning.Log.Settings

/-!
# The program

The command line is looked at first, then the settings, then the level and the directives of the
log.  After that statements are printed where that is asked for; otherwise a database is needed.
There is no driver that could connect to one, so that every address is refused.
-/

namespace TablePartitioning

open CommandLine

/-- What keeps the program from carrying a command out. -/
inductive ProgramError where
  | config (cause : ConfigError)
  | invalidLogLevel (text : String)
  | log (cause : LogFailure)
  | noAddress
  | notConnected
  | failure (cause : Failure)

/-- The text of an error. -/
def ProgramError.message : ProgramError → String
  | .config cause => cause.message
  | .invalidLogLevel text => "invalid log level: " ++ text
  | .log cause => cause.message
  | .noAddress => "db.url is not configured (set PARTKIT__DB__URL or use --config)"
  | .notConnected => "connect database failed"
  | .failure cause => cause.message

/-- What the program ends with, with all that it has written. -/
structure Ending where
  exitCode : Nat
  output : String
  errorOutput : String
deriving DecidableEq

/-- The ending with an error, after some output. -/
def Ending.ofError (output : String) (error : ProgramError) : Ending :=
  ⟨1, output, lines ["Error: " ++ error.message]⟩

namespace Application

/-- The name of the program. -/
def name : String := "partkit"

/-- The version of the program. -/
def version : String := "0.1.0"

/-- What is said of the use of the program. -/
def usage : String :=
  lines (("Usage: " ++ name ++ " [OPTIONS] <COMMAND>") :: "" :: "Commands:" ::
    (GlobalArguments.grammar.commands.map ("  " ++ ·)))

/-- The variable that the path of the configuration file may stand in. -/
def configVariable : String := "PARTKIT_CONFIG"

/-- The ending of a command line that is not carried out. -/
def ofUsageError : UsageError → Ending
  | .helpRequested => ⟨0, usage, ""⟩
  | .versionRequested => ⟨0, lines [name ++ " " ++ version], ""⟩
  | _ => ⟨2, "", usage⟩

/-- The settings with the level of the log that the command line asks for. -/
def withLogLevel (level : Option String) (settings : AppSettings) :
    Except ProgramError AppSettings :=
  match level with
  | none => .ok settings
  | some text =>
      match LogLevel.ofText? text with
      | some level => .ok { settings with log := { settings.log with level := level } }
      | none => .error (.invalidLogLevel text)

/-- Make everything ready that has to be ready before the command is carried out. -/
def prepare (invocation : Invocation) (locate : String → Located) (assignments : Option String)
    (environment : Environment) : Except ProgramError AppSettings := do
  let file := invocation.config.map fun path => (path, locate path)
  let settings ← (Config.load file assignments environment).mapError .config
  let settings ← withLogLevel invocation.logLevel settings
  (settings.log.install false).mapError .log
  return settings

/-- Print the statements of an operation, and then what it results in. -/
def printStatements (currentYear : Int32) (dialect : Dialect) (operation : Operation) :
    String × Except ProgramError Unit :=
  let held :=
    (operation.reported currentYear (Printing.backendOf dialect) (.ofDialect dialect)).run
      Printing.server []
  let printed := Printing.text held.state
  match held.result.1 with
  | .ok report => (printed ++ report, .ok ())
  | .error failure => (printed, .error (.failure failure))

/-- Carry a command out. -/
def perform (currentYear : Int32) (invocation : Invocation) (settings : AppSettings) :
    String × Except ProgramError Unit :=
  match invocation.dryRun, invocation.dialect with
  | true, some dialect => printStatements currentYear dialect invocation.operation
  | _, _ => ("", .error (if settings.db.url = "" then .noAddress else .notConnected))

/-- The path of the configuration file that a command line leads to, if there is one. -/
def configPath? (environment : Environment) (words : List String) : Option String :=
  match Invocation.parse (environment.lookup configVariable) words with
  | .ok invocation => invocation.config
  | .error _ => none

/--
Run the program on the words of a command line.  A path leads to a file as `locate` says, and
there may be a file of variables.
-/
def run (currentYear : Int32) (locate : String → Located) (assignments : Option String)
    (environment : Environment) (words : List String) : Ending :=
  match Invocation.parse (environment.lookup configVariable) words with
  | .error error => ofUsageError error
  | .ok invocation =>
      match prepare invocation locate assignments environment with
      | .error error => .ofError "" error
      | .ok settings =>
          match perform currentYear invocation settings with
          | (output, .ok ()) => ⟨0, output, ""⟩
          | (output, .error error) => .ofError output error

end Application

end TablePartitioning
