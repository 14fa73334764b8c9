import TablePartitioning.Config.DotEnv
import TablePartitioning.Config.Folder
import TablePartitioning.Config.KeyPath
import TablePartitioning.Config.Loose
import TablePartitioning.Config.Settings
import TablePartitioning.Json.Reader
import TablePartitioning.Toml.Document

/-!
# Layers of settings

A setting comes from the environment, else from the configuration file, else it has its default.
The layers are put over each other key by key before anything is decoded.
-/

namespace TablePartitioning

/-- Why there are no settings. -/
inductive ConfigError where
  | missingFile (path : String)
  /-- The file is of no known format, or not well formed. -/
  | unreadable
  /-- A setting is not of its kind. -/
  | undecodable
deriving DecidableEq

/-- The text of an error. -/
def ConfigError.message : ConfigError → String
  | .missingFile path => "canonicalize config path failed: " ++ Text.Quoted.quotePath path
  | .unreadable => "config load failed"
  | .undecodable => "config deserialize failed"

/-- The formats of configuration files. -/
inductive ConfigFormat where
  | toml
  | json
deriving DecidableEq

namespace ConfigFormat

/-- The format of a file, by what stands after the last point of its name. -/
def ofFileName? (name : String) : Option ConfigFormat :=
  match (Text.pieces '.' name).reverse with
  | [_, ""] => none
  | extension :: _ :: _ =>
      if extension = "toml" then some .toml
      else if extension = "json" then some .json
      else none
  | _ => none

/-- The settings that a text holds, in a table. -/
def settings? (format : ConfigFormat) (text : String) : Option (List (String × Json)) :=
  let chars :=
    match text.toList with
    | '\ufeff' :: rest => rest
    | chars => chars
  let text := String.ofList chars
  let value :=
    match format with
    | .toml => Toml.parse? text
    | .json => Json.parse? text
  match value with
  | some (.object fields) => some fields
  | _ => none

end ConfigFormat

namespace Config

/-- The settings of a configuration file, where one is asked for. -/
def fileSettings (file : Option (String × Located)) :
    Except ConfigError (List (String × Json)) :=
  match file with
  | none => .ok []
  | some (path, .nothing) => .error (.missingFile path)
  | some (_, .folder) => .error .unreadable
  | some (_, .file name text) =>
      match (ConfigFormat.ofFileName? name).bind (·.settings? text) with
      | some settings => .ok settings
      | none => .error .unreadable

/-- The layers over each other, the last one on top. -/
def overlay (layers : List (List (String × Json))) : Json :=
  layers.foldl (fun settings layer => KeyPath.putAll layer settings) (.object [])

/-- Decode settings. -/
def decode (settings : Json) : Except ConfigError AppSettings :=
  (AppSettings.decode Json.loose settings).mapError fun _ => .undecodable

/-- The settings of a configuration file and of the environment. -/
def ofLayers (file : Option (String × Located)) (environment : Environment) :
    Except ConfigError AppSettings :=
  match fileSettings file with
  | .error error => .error error
  | .ok settings => decode (overlay [settings, environment.settings])

/-- The settings with the variables of a file of variables added to the environment. -/
def load (file : Option (String × Located)) (assignments : Option String)
    (environment : Environment) : Except ConfigError AppSettings :=
  ofLayers file ((assignments.map fun text => DotEnv.load text environment).getD environment)

end Config

end TablePartitioning
