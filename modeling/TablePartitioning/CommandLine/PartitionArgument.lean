import TablePartitioning.Definition
import TablePartitioning.Text.Basic

/-!
# Partitions given on the command line

A partition is written `name=value`, where a list partition has several values separated by
commas.  Blanks around the name and the values do not count.
-/

namespace TablePartitioning.PartitionArgument

/-- Why an argument is refused. -/
inductive Refusal where
  /-- The argument is not of the form `name=value`. -/
  | malformed (argument : String)
  | withoutValues (name : String)
deriving DecidableEq

/-- The text of a refusal. -/
def Refusal.message : Refusal → String
  | .malformed argument => "expected \x60name=value\x60, got \x60" ++ argument ++ "\x60"
  | .withoutValues name => "partition \x60" ++ name ++ "\x60 has no values"

/-- The name and the value, neither of them blank. -/
def split (argument : String) : Except Refusal (String × String) :=
  match Text.splitOnce? '=' argument with
  | none => .error (.malformed argument)
  | some (name, value) =>
      if Text.isBlankText name || Text.isBlankText value then .error (.malformed argument)
      else .ok (Text.trim name, Text.trim value)

/-- Read a range partition. -/
def parseRange (argument : String) : Except Refusal Definition :=
  match split argument with
  | .error refusal => .error refusal
  | .ok (name, bound) => .ok (.range name bound)

/-- Read a list partition; blank values are left out. -/
def parseList (argument : String) : Except Refusal Definition :=
  match split argument with
  | .error refusal => .error refusal
  | .ok (name, value) =>
      let values := ((Text.pieces ',' value).map Text.trim).filter (· ≠ "")
      if values.isEmpty then .error (.withoutValues name) else .ok (.list name values)

end TablePartitioning.PartitionArgument
