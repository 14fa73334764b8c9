import TablePartitioning.Text.Basic

/-!
# Folders of files

A path is followed from a folder on, step by step: a step goes into a folder, one point stays, two
points leave, and nothing can be entered but a folder.
-/

namespace TablePartitioning

/-- What a path leads to. -/
inductive Located where
  | nothing
  | folder
  /-- A file, by its own name and its text. -/
  | file (name text : String)
deriving DecidableEq

/-- Files by their paths from a folder, with slashes between the steps. -/
structure Folder where
  files : List (String × String)

namespace Folder

/-- Where the following of a path has come to. -/
inductive Position where
  /-- A folder, by the steps to it. -/
  | inside (steps : List String)
  /-- A folder that encloses the folder. -/
  | outside
  | file (name text : String)
  | lost

/-- Whether files lie in a folder, or deeper. -/
def hasFolder (folder : Folder) (steps : List String) : Bool :=
  folder.files.any fun (path, _) =>
    let parts := Text.pieces '/' path
    steps.length < parts.length && steps.isPrefixOf parts

/-- Take one step. -/
def step (folder : Folder) (position : Position) (name : String) : Position :=
  match position with
  | .inside steps =>
      if name = "" || name = "." then .inside steps
      else if name = ".." then
        if steps.isEmpty then .outside else .inside steps.dropLast
      else
        let further := steps ++ [name]
        match folder.files.lookup ("/".intercalate further) with
        | some text => .file name text
        | none => if folder.hasFolder further then .inside further else .lost
  | .outside => if name = "" || name = "." || name = ".." then .outside else .lost
  | .file _ _ | .lost => .lost

/-- Follow a path; one that begins with a slash leads out of the folder. -/
def locate (folder : Folder) (path : String) : Located :=
  let start : Position :=
    if path = "" then .lost
    else if path.toList.head? = some '/' then .outside
    else .inside []
  match (Text.pieces '/' path).foldl folder.step start with
  | .inside _ | .outside => .folder
  | .file name text => .file name text
  | .lost => .nothing

end Folder

end TablePartitioning
