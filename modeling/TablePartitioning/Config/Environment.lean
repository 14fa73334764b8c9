import TablePartitioning.Json.Basic
import TablePartitioning.Text.Basic

/-!
# Settings in the environment

A variable like `PARTKIT__DB__URL` holds the setting `db.url`: the case of its letters does not
count, what stands before the first two underscores is the name of the program, and the others
separate the keys of tables.
-/

namespace TablePartitioning

/-- The variables of the environment; a variable counts where it stands first. -/
abbrev Environment := List (String × String)

namespace Environment

/-- A variable from its name and its value with an equals sign between them. -/
def assignment? (bytes : List UInt8) : Option (String × String) := do
  let text ← String.fromUTF8? ⟨bytes.toArray⟩
  Text.splitOnce? '=' text

/-- The variables of a process, each ended by a zero byte; those that are no texts are left out. -/
def ofBytes (bytes : ByteArray) : Environment :=
  (bytes.toList.splitOn 0).filterMap assignment?

/-- What the names of settings begin with. -/
def mark : List Char := "partkit__".toList

/-- A letter in lower case; the sign of the unit kelvin is a letter k. -/
def lowerLetter (c : Char) : Char :=
  if c = '\u212a' then 'k' else c.toLower

/-- Two underscores become a point. -/
def pointed : List Char → List Char
  | '_' :: '_' :: rest => '.' :: pointed rest
  | c :: rest => c :: pointed rest
  | [] => []

/-- The key of the setting that a variable holds. -/
def settingKey? (name : String) : Option String :=
  let chars := name.toList.map lowerLetter
  if mark.isPrefixOf chars then some (String.ofList (pointed (chars.drop mark.length))) else none

/-- Keep one value for each key: the place of the first and the value of the last. -/
def store (settings : List (String × Json)) (key : String) (value : Json) :
    List (String × Json) :=
  match settings with
  | [] => [(key, value)]
  | (other, old) :: rest =>
      if other = key then (key, value) :: rest else (other, old) :: store rest key value

/-- The settings that the variables hold. -/
def settings (environment : Environment) : List (String × Json) :=
  environment.foldl
    (fun settings (name, value) =>
      match settingKey? name with
      | some key => store settings key (.string value)
      | none => settings)
    []

end Environment

end TablePartitioning
