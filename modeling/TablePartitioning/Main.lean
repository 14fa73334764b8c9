import Std.Time.Zoned
import TablePartitioning.Application

/-!
# The executable

Reads the environment, the file of variables and the configuration file, runs the program on them
and writes what it ends with.
-/

namespace TablePartitioning.Application

/-- The text of a file, if it can be read. -/
def readText? (path : String) : IO (Option String) := do
  try
    return some (← IO.FS.readFile path)
  catch _ =>
    return none

/-- What a path leads to. -/
def locateFile (path : String) : IO Located := do
  try
    let text ← IO.FS.readFile path
    return .file (((Text.pieces '/' path).getLast?).getD path) text
  catch
    | .noFileOrDirectory _ _ _ => return .nothing
    | _ => return .folder

/-- The text of the first file that can be read. -/
def firstText? : List String → IO (Option String)
  | [] => return none
  | path :: rest => do
      match ← readText? path with
      | some text => return some text
      | none => firstText? rest

/-- The variables of this process. -/
def readEnvironment : IO Environment := do
  try
    return .ofBytes (← IO.FS.readBinFile "/proc/self/environ")
  catch _ =>
    return []

/-- The file of variables of this folder and of the folders around it, the nearest first. -/
def variableFiles : List String :=
  (List.range 64).map fun depth => String.join (List.replicate depth "../") ++ ".env"

end TablePartitioning.Application

open TablePartitioning in
/-- Run the program on a command line. -/
def main (words : List String) : IO UInt32 := do
  let environment ← Application.readEnvironment
  let assignments ← Application.firstText? Application.variableFiles
  let located ←
    match Application.configPath? environment words with
    | some path => Application.locateFile path
    | none => pure .nothing
  let now ← Std.Time.PlainDateTime.now
  let ending :=
    Application.run (Int32.ofInt now.year.toInt) (fun _ => located) assignments environment words
  IO.print ending.output
  IO.eprint ending.errorOutput
  return ending.exitCode.toUInt32
