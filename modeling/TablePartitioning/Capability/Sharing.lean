import TablePartitioning.Capability.Detection

/-!
# A cache that many share

Callers that want the capability of a server at the same time share one detection.  Emptying the
cache starts a new generation with a cell of its own; a caller stays with the cell of the
generation that it arrived in.  In a cell at most one caller detects while the others wait in the
order of their arrival: a success answers all of them, a failure goes to the caller that detected,
and the next one detects for itself.

`Sharing.step` makes one move of one caller, so that every interleaving of the callers with each
other and with emptying is a list of moves.
-/

namespace TablePartitioning

/-- What a server has ready for the next question, whichever it is. -/
structure Reply where
  version : Except DbError String
  rows : Except DbError (List Json)
  execution : Except DbError Unit

/-- A dialogue after its next question has been answered, or its next event noted. -/
def Dialogue.answer (reply : Reply) : Dialogue Result → Dialogue Result
  | .done result => .done result
  | .version next => next reply.version
  | .query _ next => next reply.rows
  | .execute _ next => next reply.execution
  | .note _ next => next

/-- Where a caller stands. -/
inductive Phase where
  /-- Has not arrived yet. -/
  | absent
  /-- Has arrived, and looks at the cell of its generation next. -/
  | arrived
  /-- Waits for the caller that detects. -/
  | waiting
  | detecting (rest : Dialogue (Except Failure Support))
  | answered (result : Except Failure Support)

/-- Someone who wants the capability of a server. -/
structure Caller where
  backend : Backend
  generation : Nat
  phase : Phase

/-- The cell of a generation. -/
structure Cell where
  value : Option Support
  /-- The caller that detects. -/
  detector : Option Nat
  /-- The callers that wait, the first to arrive first. -/
  queue : List Nat

/-- Nothing has been found out, and nobody is about to. -/
def Cell.empty : Cell := ⟨none, none, []⟩

/-- A shared cache with all generations of it and all callers so far. -/
structure Sharing where
  /-- The generation that new callers join. -/
  generation : Nat
  cells : Nat → Cell
  callers : Nat → Caller

namespace Sharing

/-- A family with one member replaced. -/
def replace (family : Nat → α) (index : Nat) (member : α) : Nat → α :=
  fun other => if other = index then member else family other

/-- A cache that nobody uses yet. -/
def ofCache (cache : Cache) : Sharing where
  generation := 0
  cells := replace (fun _ => Cell.empty) 0 { Cell.empty with value := cache.known }
  callers := fun _ => ⟨.mysql, 0, .absent⟩

/-- What the current generation remembers. -/
def cache (sharing : Sharing) : Cache :=
  ⟨(sharing.cells sharing.generation).value⟩

/-- What is known at the moment. -/
def peek (sharing : Sharing) : Capability := sharing.cache.peek

/-- Change the phase of a caller. -/
def enter (sharing : Sharing) (caller : Nat) (phase : Phase) : Sharing :=
  { sharing with
    callers := replace sharing.callers caller { sharing.callers caller with phase := phase } }

/-- Change a cell. -/
def setCell (sharing : Sharing) (generation : Nat) (cell : Cell) : Sharing :=
  { sharing with cells := replace sharing.cells generation cell }

/-- A caller arrives and joins the current generation. -/
def arrive (sharing : Sharing) (caller : Nat) (backend : Backend) : Sharing :=
  match (sharing.callers caller).phase with
  | .absent =>
      { sharing with
        callers := replace sharing.callers caller ⟨backend, sharing.generation, .arrived⟩ }
  | _ => sharing

/-- Let a caller detect. -/
def startDetection (sharing : Sharing) (caller : Nat) : Sharing :=
  sharing.enter caller (.detecting (Detection.detect (sharing.callers caller).backend))

/--
A caller looks at its cell: it takes the value, or detects if nobody is before it, or waits.
-/
def look (sharing : Sharing) (caller : Nat) : Sharing :=
  let member := sharing.callers caller
  let cell := sharing.cells member.generation
  match member.phase, cell.value with
  | .arrived, some support | .waiting, some support =>
      sharing.enter caller (.answered (.ok support))
  | .arrived, none =>
      if cell.detector.isNone && cell.queue.isEmpty then
        (sharing.setCell member.generation { cell with detector := some caller }).startDetection
          caller
      else
        (sharing.setCell member.generation { cell with queue := cell.queue ++ [caller] }).enter
          caller .waiting
  | _, _ => sharing

/-- A detection is over: its value fills the cell, or the next caller that waits detects. -/
def conclude (sharing : Sharing) (caller : Nat) (result : Except Failure Support) : Sharing :=
  let generation := (sharing.callers caller).generation
  let cell := sharing.cells generation
  let sharing := sharing.enter caller (.answered result)
  match result with
  | .ok support => sharing.setCell generation ⟨some support, none, []⟩
  | .error _ =>
      match cell.queue with
      | [] => sharing.setCell generation { cell with detector := none }
      | next :: rest =>
          (sharing.setCell generation
            { cell with detector := some next, queue := rest }).startDetection next

/-- One question of a caller's detection is answered. -/
def proceed (sharing : Sharing) (caller : Nat) (reply : Reply) : Sharing :=
  match (sharing.callers caller).phase with
  | .detecting rest =>
      match rest.answer reply with
      | .done result => sharing.conclude caller result
      | rest => sharing.enter caller (.detecting rest)
  | _ => sharing

/-- Forget what is known: callers that arrive from now on start anew. -/
def reset (sharing : Sharing) : Sharing :=
  { sharing with
    generation := sharing.generation + 1
    cells := replace sharing.cells (sharing.generation + 1) Cell.empty }

/-- What may happen next. -/
inductive Move where
  | arrive (caller : Nat) (backend : Backend)
  | look (caller : Nat)
  | proceed (caller : Nat) (reply : Reply)
  | reset

/-- Make a move; a move that is not possible changes nothing. -/
def step (sharing : Sharing) : Move → Sharing
  | .arrive caller backend => sharing.arrive caller backend
  | .look caller => sharing.look caller
  | .proceed caller reply => sharing.proceed caller reply
  | .reset => sharing.reset

/-- Make moves one after the other. -/
def run (sharing : Sharing) (moves : List Move) : Sharing :=
  moves.foldl step sharing

end Sharing

end TablePartitioning
