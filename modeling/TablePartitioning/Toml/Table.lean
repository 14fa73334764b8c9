import TablePartitioning.Json.Basic

/-!
# Tables of a TOML document

A table is defined once: by its header, by keys with points, or as a value.  Until then it may be
there only because a header leads through it.  A table that keys with points have made can still
be led through, but not defined again.
-/

namespace TablePartitioning.Toml

/-- How a table has come to be. -/
inductive Origin where
  /-- A header leads through it. -/
  | passed
  /-- It has a header of its own. -/
  | header
  /-- A key with points leads through it. -/
  | pointed
deriving DecidableEq

/-- What stands under a key. -/
inductive Node where
  | value (value : Json)
  | table (origin : Origin) (entries : List (String × Node))
  /-- Tables in a list, the last one first. -/
  | tables (last : List (String × Node)) (earlier : List (List (String × Node)))

/-- The entries of a table in the order in which they are made. -/
abbrev Entries := List (String × Node)

namespace Entries

/-- Replace the entry of a key, or add one. -/
def set (key : String) (node : Node) : Entries → Entries
  | [] => [(key, node)]
  | (other, old) :: rest =>
      if other = key then (key, node) :: rest else (other, old) :: set key node rest

/-- Change the table that the keys of a header lead to, the last table of every list. -/
def within (change : Entries → Option Entries) : List String → Entries → Option Entries
  | [], entries => change entries
  | key :: path, entries =>
      match entries.lookup key with
      | none =>
          (within change path []).map fun inner => entries.set key (.table .passed inner)
      | some (.table origin inner) =>
          (within change path inner).map fun inner => entries.set key (.table origin inner)
      | some (.tables last earlier) =>
          (within change path last).map fun last => entries.set key (.tables last earlier)
      | some (.value _) => none

/-- Define a table by a header. -/
def define (key : String) (entries : Entries) : Option Entries :=
  match entries.lookup key with
  | none => some (entries.set key (.table .header []))
  | some (.table .passed inner) => some (entries.set key (.table .header inner))
  | some _ => none

/-- Add a table to a list of tables. -/
def append (key : String) (entries : Entries) : Option Entries :=
  match entries.lookup key with
  | none => some (entries.set key (.tables [] []))
  | some (.tables last earlier) => some (entries.set key (.tables [] (last :: earlier)))
  | some _ => none

/--
Put a value under a key with points; where there are points, the table that it is put into has to
be one that keys with points have made.
-/
def assign (value : Json) (allowed : Bool) : List String → Entries → Option Entries
  | [], _ => none
  | [key], entries =>
      match allowed, entries.lookup key with
      | true, none => some (entries.set key (.value value))
      | _, _ => none
  | key :: path, entries =>
      match entries.lookup key with
      | none =>
          (assign value true path []).map fun inner => entries.set key (.table .pointed inner)
      | some (.table .pointed inner) =>
          (assign value true path inner).map fun inner => entries.set key (.table .pointed inner)
      | some (.table .passed inner) =>
          (assign value false path inner).map fun inner => entries.set key (.table .passed inner)
      | some (.tables last earlier) =>
          (assign value false path last).map fun last => entries.set key (.tables last earlier)
      | some _ => none

end Entries

mutual

/-- The value of what stands under a key. -/
def Node.toJson : Node → Json
  | .value value => value
  | .table _ entries => .ofFields (fieldsOf entries)
  | .tables last earlier => .array ((Json.ofFields (fieldsOf last) :: itemsOf earlier).reverse)

/-- The fields of a table. -/
def fieldsOf : List (String × Node) → List (String × Json)
  | [] => []
  | (key, node) :: rest => (key, node.toJson) :: fieldsOf rest

/-- The values of tables. -/
def itemsOf : List (List (String × Node)) → List Json
  | [] => []
  | entries :: rest => .ofFields (fieldsOf entries) :: itemsOf rest

end

/-- The value of a table. -/
def Entries.toJson (entries : Entries) : Json := .ofFields (fieldsOf entries)

end TablePartitioning.Toml
