import TablePartitioning.Decoding.Strict
import TablePartitioning.Log.Directive

/-!
# Settings of the log

How log lines are laid out, which of them are written, and what they show.  Every setting has a
default.  The log is installed once for the whole program, with the directives of its settings.
-/

namespace TablePartitioning

/-- How a log line is laid out. -/
inductive LogFormat where
  | compact
  | pretty
  | json
deriving DecidableEq

namespace LogFormat

/-- All formats. -/
def all : List LogFormat := [compact, pretty, json]

/-- The name of a format. -/
def name : LogFormat → String
  | .compact => "compact"
  | .pretty => "pretty"
  | .json => "json"

/-- The format of a name. -/
def ofName? (name : String) : Option LogFormat :=
  all.find? (·.name = name)

end LogFormat

/-- What is said of a text that is no name of its kind. -/
def unknownName : String := "Matching variant not found"

/-- The settings of the log. -/
structure LogSettings where
  format : LogFormat
  level : LogLevel
  /-- Filters for parts of the program. -/
  directives : Option String
  ansi : Bool
  withFilename : Bool
  withLineNumber : Bool
deriving DecidableEq

namespace Source

/-- A text that names something. -/
def named (source : Source Value) (ofName? : String → Option α) (unknown : String)
    (value : Value) : Except DecodeError α :=
  match source.text value with
  | .error error => .error error
  | .ok name =>
      match ofName? name with
      | some named => .ok named
      | none => .error (.unknownName unknown)

end Source

namespace LogSettings

/-- What holds where nothing is set. -/
def default : LogSettings where
  format := .compact
  level := .info
  directives := none
  ansi := true
  withFilename := false
  withLineNumber := false

/-- The settings by their names. -/
def shape (source : Source Value) : RecordShape Value LogSettings where
  name := "LogConfig"
  initial := default
  allowsShorter := true
  fields := [
    { name := "format", aliases := [], required := false,
      store := fun value settings =>
        (source.named LogFormat.ofName? unknownName value).map fun value =>
          { settings with format := value } },
    { name := "level", aliases := [], required := false,
      store := fun value settings =>
        (source.named LogLevel.ofText? LogLevel.unknown value).map fun value =>
          { settings with level := value } },
    { name := "directives", aliases := [], required := false,
      store := fun value settings =>
        (source.optional source.text value).map fun value =>
          { settings with directives := value } },
    { name := "ansi", aliases := [], required := false,
      store := fun value settings =>
        (source.flag value).map fun value => { settings with ansi := value } },
    { name := "with_filename", aliases := [], required := false,
      store := fun value settings =>
        (source.flag value).map fun value => { settings with withFilename := value } },
    { name := "with_line_number", aliases := [], required := false,
      store := fun value settings =>
        (source.flag value).map fun value => { settings with withLineNumber := value } }]

/-- Read settings. -/
def decode (source : Source Value) (value : Value) : Except DecodeError LogSettings :=
  (shape source).decode source value

/-- The settings as they are written. -/
def toJson (settings : LogSettings) : Json :=
  .object [
    ("format", .string settings.format.name),
    ("level", .string settings.level.word),
    ("directives", Json.ofOption .string settings.directives),
    ("ansi", .bool settings.ansi),
    ("with_filename", .bool settings.withFilename),
    ("with_line_number", .bool settings.withLineNumber)]

end LogSettings

/-! ## Installing the log

The directives are looked at before it is known whether there is a log already.
-/

/-- Why the log cannot be installed. -/
inductive LogFailure where
  | invalidDirectives (directives : String)
  | alreadyInstalled
deriving DecidableEq

/-- The text of a failure. -/
def LogFailure.message : LogFailure → String
  | .invalidDirectives directives => "invalid log directives: " ++ directives
  | .alreadyInstalled =>
      "global subscriber already installed: " ++
        "a global default trace dispatcher has already been set"

/-- Install the log where it is known whether there is one already. -/
def LogSettings.install (installed : Bool) (settings : LogSettings) : Except LogFailure Unit :=
  let directives := settings.directives.getD ""
  if !Directive.areWellFormed directives then .error (.invalidDirectives directives)
  else if installed then .error .alreadyInstalled
  else .ok ()

end TablePartitioning
