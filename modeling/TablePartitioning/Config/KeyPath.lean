import TablePartitioning.Json.Basic
import TablePartitioning.Text.Basic
import TablePartitioning.Text.Numeral

/-!
# Paths to settings

A key like `db.url` or `hosts[0].name` leads through tables and lists to a setting.  Settings put
at a path make the tables and lists on their way; a table that is put where there is one already
goes into it, key by key, and any other value replaces what was there.
-/

namespace TablePartitioning.KeyPath

/-- A step into a table or a list; a negative place counts from the end. -/
inductive Step where
  | key (name : String)
  | index (place : Int)
deriving DecidableEq

/-- Characters of keys. -/
def isKeyChar (c : Char) : Bool :=
  Text.isAsciiAlphanumeric c || c = '_' || c = '-'

/-- What is being read of a path, its characters last first. -/
inductive Reading where
  | key (written : List Char)
  | index (written : List Char)
  | between

/-- The place in a list, a number of 64 bits between optional blanks. -/
def index? (written : List Char) : Option Step :=
  let isSpace (c : Char) : Bool := c = ' ' || c = '\t'
  let chars := ((written.dropWhile isSpace).reverse).dropWhile isSpace
  if chars.head? = some '+' then none
  else
    (Text.Numeral.between? (-Word.signedBound 64) (Word.signedBound 64 - 1)
      (String.ofList chars)).map .index

/-- The end of a key, which is not empty. -/
def key? (written : List Char) : Option Step :=
  if written.isEmpty then none else some (.key (String.ofList written.reverse))

/-- Read the steps of a path. -/
def steps? : Reading → List Char → Option (List Step)
  | .key written, [] => (key? written).map ([·])
  | .index _, [] => none
  | .between, [] => some []
  | .key written, c :: rest =>
      if isKeyChar c then steps? (.key (c :: written)) rest
      else do
        let step ← key? written
        if c = '.' then return step :: (← steps? (.key []) rest)
        else if c = '[' then return step :: (← steps? (.index []) rest)
        else none
  | .index written, c :: rest =>
      if c = ']' then do
        let step ← index? written
        return step :: (← steps? .between rest)
      else steps? (.index (c :: written)) rest
  | .between, c :: rest =>
      if c = '.' then steps? (.key []) rest
      else if c = '[' then steps? (.index []) rest
      else none

/-- The path of a text; a text that is no path is a key as it stands. -/
def ofText (text : String) : List Step :=
  (steps? (.key []) text.toList).getD [.key text]

/-- The fields of a table; anything else has none. -/
def fieldsOf : Json → List (String × Json)
  | .object fields => fields
  | _ => []

/-- The items of a list; anything else has none. -/
def itemsOf : Json → List Json
  | .array items => items
  | _ => []

mutual

/-- What there is with a value put there. -/
def merge (old : Json) : Json → Json
  | .object fields => .object (mergeFields (fieldsOf old) fields)
  | value => value

/-- The fields there are with other fields put there. -/
def mergeFields (old : List (String × Json)) : List (String × Json) → List (String × Json)
  | [] => old
  | (name, value) :: rest =>
      mergeFields (Json.insertField name (merge ((old.lookup name).getD .null) value) old) rest

end

/-- The items of a list that has a place, and the number of the place from the start. -/
def makePlace (items : List Json) (place : Int) : List Json × Nat :=
  if 0 ≤ place then
    let index := place.toNat
    (items ++ List.replicate (index + 1 - items.length) .null, index)
  else if place.natAbs ≤ items.length then (items, items.length - place.natAbs)
  else (List.replicate (place.natAbs - items.length) .null ++ items, 0)

/-- Put a value at the end of a path. -/
def put (value : Json) : List Step → Json → Json
  | [], old => merge old value
  | .key name :: rest, old =>
      let fields := fieldsOf old
      .object (Json.insertField name (put value rest ((fields.lookup name).getD .null)) fields)
  | .index place :: rest, old =>
      let (items, index) := makePlace (itemsOf old) place
      .array (items.set index (put value rest ((items[index]?).getD .null)))

/-- Put settings into settings, each under the path that its key is. -/
def putAll (settings : List (String × Json)) (old : Json) : Json :=
  settings.foldl (fun settings (key, value) => put value (ofText key) settings) old

end TablePartitioning.KeyPath
