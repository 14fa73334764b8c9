import TablePartitioning.Toml.Value

/-!
# TOML documents

A document is a sequence of lines, each with a key and its value, with a header, or with nothing.
The keys after a header belong to its table.
-/

namespace TablePartitioning.Toml

/-- A document that has been read in part. -/
structure Document where
  entries : Entries
  /-- The keys of the header that the next keys belong to. -/
  path : List String

namespace Document

/-- Nothing has been read. -/
def empty : Document := ⟨[], []⟩

/-- Begin a table or a list of tables at the last key of a path. -/
def start? (change : String → Entries → Option Entries) (path : List String)
    (document : Document) : Option Document := do
  let key ← path.getLast?
  let entries ← document.entries.within (change key) path.dropLast
  return ⟨entries, path⟩

/-- Read a header, from the character after its first bracket. -/
def header? (document : Document) (chars : List Char) : Option (Document × List Char) :=
  match chars with
  | '[' :: rest => do
      let (path, rest) ← key? rest.length rest
      let rest ← (after? ']' rest).bind (after? ']')
      return (← start? Entries.append path document, rest)
  | rest => do
      let (path, rest) ← key? rest.length rest
      let rest ← after? ']' rest
      return (← start? Entries.define path document, rest)

/-- Read a key and its value. -/
def assignment? (document : Document) (chars : List Char) : Option (Document × List Char) := do
  let (keys, rest) ← key? chars.length chars
  let rest ← after? '=' rest
  let (value, rest) ← value? (2 * rest.length + 2) 0 (skipSpaces rest)
  let entries ← document.entries.within (Entries.assign value true keys) document.path
  return ({ document with entries }, rest)

/-- Read lines to the end; the fuel bounds their number. -/
def read? : Nat → Document → List Char → Option Document
  | 0, _, _ => none
  | fuel + 1, document, chars => do
      match ← skipLines? false chars with
      | [] => return document
      | '[' :: rest =>
          let (document, rest) ← document.header? rest
          read? fuel document (← lineEnd? rest)
      | start =>
          let (document, rest) ← document.assignment? start
          read? fuel document (← lineEnd? rest)

end Document

/-- The value that a document stands for. -/
def parse? (text : String) : Option Json :=
  let chars :=
    match text.toList with
    | '\ufeff' :: rest => rest
    | chars => chars
  (Document.read? (chars.length + 1) .empty chars).map fun document => document.entries.toJson

end TablePartitioning.Toml
