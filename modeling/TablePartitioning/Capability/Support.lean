import TablePartitioning.Dialect

/-!
# Whether a server partitions tables

The outcome of looking at a server: a dialect that it understands, or none, where it may still be
known which dialect the server would need.
-/

namespace TablePartitioning

/-- What is found out about a server. -/
inductive Support where
  | supported (dialect : Dialect)
  | unsupported (candidate : Option Dialect)
deriving DecidableEq

namespace Support

/-- Whether the server partitions tables. -/
def isSupported : Support → Bool
  | .supported _ => true
  | .unsupported _ => false

/-- The dialect that the server understands or would need. -/
def dialect? : Support → Option Dialect
  | .supported dialect => some dialect
  | .unsupported candidate => candidate

end Support

/-- What is known about a server at some time. -/
structure Capability where
  supported : Bool
  /-- Whether the server has been looked at. -/
  checked : Bool
  dialect : Option Dialect
deriving DecidableEq

namespace Capability

/-- Nothing is known. -/
def unknown : Capability := ⟨false, false, none⟩

/-- What is known once the server has been looked at. -/
def ofSupport (support : Support) : Capability :=
  ⟨support.isSupported, true, support.dialect?⟩

/-- What is known where the server may have been looked at. -/
def ofOption (known : Option Support) : Capability :=
  (known.map ofSupport).getD unknown

end Capability

end TablePartitioning
