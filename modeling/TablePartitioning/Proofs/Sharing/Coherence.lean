import TablePartitioning.Capability.Sharing

/-!
# The moves of a shared cache, and what holds between them

`Transition` lists what a single move can do, guards included, and `step_transition` says that the
list is complete.  `Coherent` is what every sharing in between two moves satisfies: each cell fits
the phases of the callers of its generation.  A cell that is filled has no detector, a cell that
somebody waits for has one, and nobody detects but the detector of the own cell.

The law of one cell is stated for any assignment of phases, so that each move is looked at where it
happens, without the cells and callers that it does not concern.
-/

namespace TablePartitioning

/-- Whether a caller runs its detection. -/
@[grind =]
def Phase.isDetecting : Phase → Bool
  | .detecting _ => true
  | _ => false

/-- Whether a caller has not arrived yet. -/
@[grind =]
def Phase.isAbsent : Phase → Bool
  | .absent => true
  | _ => false

theorem Phase.isAbsent_iff (phase : Phase) : phase.isAbsent = true ↔ phase = .absent := by
  cases phase <;> simp [isAbsent]

/-- A detection that has come to its end: who ran it, for which generation, and what came of it. -/
structure Outcome where
  caller : Nat
  generation : Nat
  result : Except Failure Support

/-- Whether a detection has found something out. -/
@[grind =]
def Outcome.succeeded (outcome : Outcome) : Bool :=
  match outcome.result with
  | .ok _ => true
  | .error _ => false

open Sharing (replace)

/-! ## One cell and the phases of its callers -/

/-- A cell as it has to be while its callers are in certain phases. -/
structure Cell.Fits (cell : Cell) (phases : Nat → Phase) : Prop where
  detector_iff : ∀ caller, cell.detector = some caller ↔ (phases caller).isDetecting = true
  mem_queue_iff : ∀ caller,
    caller ∈ cell.queue ↔ phases caller = .waiting ∧ cell.value = none
  settled : ∀ support, cell.value = some support → cell.detector = none
  attended : cell.queue ≠ [] → cell.detector ≠ none
  distinct : cell.queue.Nodup
  answered : ∀ caller support,
    phases caller = .answered (.ok support) → cell.value = some support

namespace Cell.Fits

variable {cell : Cell} {phases : Nat → Phase} {caller : Nat}

/-- A cell that nobody has come to yet. -/
theorem unattended (value : Option Support) (absent : ∀ caller, phases caller = .absent) :
    (Cell.mk value none []).Fits phases := by
  constructor <;> simp [absent, Phase.isDetecting]

theorem arrive (fits : cell.Fits phases) (absent : phases caller = .absent) :
    cell.Fits (replace phases caller .arrived) := by
  constructor <;> grind [replace, Fits]

theorem inform {support : Support} (fits : cell.Fits phases)
    (filled : cell.value = some support) :
    cell.Fits (replace phases caller (.answered (.ok support))) := by
  constructor <;> grind [replace, Fits]

/-- The first to look detects: a cell without detector has nobody that detects. -/
theorem begin {dialogue : Dialogue (Except Failure Support)} (fits : cell.Fits phases)
    (unfilled : cell.value = none) (free : cell.detector = none) (alone : cell.queue = []) :
    (Cell.mk none (some caller) []).Fits (replace phases caller (.detecting dialogue)) := by
  have nobodyDetects : ∀ other, (phases other).isDetecting = false := by
    intro other
    have noDetector := fits.detector_iff other
    rw [free] at noDetector
    simpa using noDetector
  have nobodyWaits : ∀ other, phases other ≠ .waiting := by
    intro other waits
    have queued := (fits.mem_queue_iff other).mpr ⟨waits, unfilled⟩
    rw [alone] at queued
    exact absurd queued List.not_mem_nil
  constructor <;> grind [replace, Fits]

theorem wait (fits : cell.Fits phases) (attends : phases caller = .arrived)
    (unfilled : cell.value = none) (busy : cell.detector ≠ none) :
    ({ cell with queue := cell.queue ++ [caller] } : Cell).Fits
      (replace phases caller .waiting) := by
  have notQueued : caller ∉ cell.queue := by
    intro queued
    have waits := ((fits.mem_queue_iff caller).mp queued).1
    rw [attends] at waits
    cases waits
  constructor <;> grind [replace, Fits]

theorem proceed {dialogue rest : Dialogue (Except Failure Support)} (fits : cell.Fits phases)
    (detects : phases caller = .detecting dialogue) :
    cell.Fits (replace phases caller (.detecting rest)) := by
  constructor <;> grind [replace, Fits]

/-- A detector works for an empty cell. -/
theorem unfilled {dialogue : Dialogue (Except Failure Support)} (fits : cell.Fits phases)
    (detects : phases caller = .detecting dialogue) :
    cell.value = none := by
  have detector : cell.detector = some caller := by
    rw [fits.detector_iff, detects, Phase.isDetecting]
  cases found : cell.value with
  | none => rfl
  | some support =>
      rw [fits.settled support found] at detector
      cases detector

/-- A success fills the cell; the queue is dropped, as those who wait can take the value. -/
theorem fill {dialogue : Dialogue (Except Failure Support)} {support : Support}
    (fits : cell.Fits phases) (detects : phases caller = .detecting dialogue) :
    (Cell.mk (some support) none []).Fits
      (replace phases caller (.answered (.ok support))) := by
  have unfilled := fits.unfilled detects
  have nobodyElse : ∀ other, other ≠ caller → (phases other).isDetecting = false := by
    intro other different
    have own := (fits.detector_iff caller).mpr (by rw [detects, Phase.isDetecting])
    have theirs := fits.detector_iff other
    rw [own] at theirs
    grind
  constructor <;> grind [replace, Fits]

/-- A failure with nobody waiting leaves the cell without detector. -/
theorem giveUp {dialogue : Dialogue (Except Failure Support)} {failure : Failure}
    (fits : cell.Fits phases) (detects : phases caller = .detecting dialogue)
    (alone : cell.queue = []) :
    ({ cell with detector := none } : Cell).Fits
      (replace phases caller (.answered (.error failure))) := by
  have unfilled := fits.unfilled detects
  constructor <;> grind [replace, Fits]

/-- A failure hands the cell over to the first that waits. -/
theorem handOver {dialogue other : Dialogue (Except Failure Support)} {failure : Failure}
    {next : Nat} {line : List Nat}
    (fits : cell.Fits phases) (detects : phases caller = .detecting dialogue)
    (waits : cell.queue = next :: line) :
    ({ cell with detector := some next, queue := line } : Cell).Fits
      (replace (replace phases caller (.answered (.error failure))) next
        (.detecting other)) := by
  have unfilled := fits.unfilled detects
  have nextWaits : phases next = .waiting :=
    ((fits.mem_queue_iff next).mp (by rw [waits]; exact List.mem_cons_self)).1
  have distinct := fits.distinct
  rw [waits, List.nodup_cons] at distinct
  constructor <;> grind [replace, Fits]

end Cell.Fits

namespace Sharing

/-! ## What a move changes -/

@[simp]
theorem replace_same (family : Nat → α) (index : Nat) (member : α) :
    replace family index member index = member := by
  simp [replace]

@[simp]
theorem replace_other (family : Nat → α) (index other : Nat) (member : α)
    (different : other ≠ index) :
    replace family index member other = family other := by
  simp [replace, different]

@[simp]
theorem cells_enter (sharing : Sharing) (caller : Nat) (phase : Phase) :
    (sharing.enter caller phase).cells = sharing.cells := rfl

@[simp]
theorem current_enter (sharing : Sharing) (caller : Nat) (phase : Phase) :
    (sharing.enter caller phase).generation = sharing.generation := rfl

@[simp]
theorem phase_enter_same (sharing : Sharing) (caller : Nat) (phase : Phase) :
    ((sharing.enter caller phase).callers caller).phase = phase := by
  simp [enter]

@[simp]
theorem callers_enter_other (sharing : Sharing) (caller other : Nat) (phase : Phase)
    (different : other ≠ caller) :
    (sharing.enter caller phase).callers other = sharing.callers other := by
  simp [enter, different]

@[simp]
theorem generation_enter (sharing : Sharing) (caller other : Nat) (phase : Phase) :
    ((sharing.enter caller phase).callers other).generation =
      (sharing.callers other).generation := by
  by_cases same : other = caller <;> simp [enter, replace, same]

@[simp]
theorem backend_enter (sharing : Sharing) (caller other : Nat) (phase : Phase) :
    ((sharing.enter caller phase).callers other).backend =
      (sharing.callers other).backend := by
  by_cases same : other = caller <;> simp [enter, replace, same]

@[simp]
theorem callers_setCell (sharing : Sharing) (generation : Nat) (cell : Cell) :
    (sharing.setCell generation cell).callers = sharing.callers := rfl

@[simp]
theorem current_setCell (sharing : Sharing) (generation : Nat) (cell : Cell) :
    (sharing.setCell generation cell).generation = sharing.generation := rfl

@[simp]
theorem cells_setCell_same (sharing : Sharing) (generation : Nat) (cell : Cell) :
    (sharing.setCell generation cell).cells generation = cell := by
  simp [setCell]

@[simp]
theorem cells_setCell_other (sharing : Sharing) (generation other : Nat) (cell : Cell)
    (different : other ≠ generation) :
    (sharing.setCell generation cell).cells other = sharing.cells other := by
  simp [setCell, different]

/-- Callers in different phases are different callers. -/
theorem ne_of_phase {sharing : Sharing} {caller other : Nat} {phase otherPhase : Phase}
    (here : (sharing.callers caller).phase = phase)
    (there : (sharing.callers other).phase = otherPhase)
    (different : phase ≠ otherPhase) :
    caller ≠ other := by
  rintro rfl
  exact different (here.symm.trans there)

/-- The cell that a caller has joined. -/
def cellOf (sharing : Sharing) (caller : Nat) : Cell :=
  sharing.cells (sharing.callers caller).generation

/-- The detection that a move brings to its end. -/
def ending? (sharing : Sharing) : Move → Option Outcome
  | .proceed caller reply =>
      match (sharing.callers caller).phase with
      | .detecting dialogue =>
          match dialogue.answer reply with
          | .done result => some ⟨caller, (sharing.callers caller).generation, result⟩
          | _ => none
      | _ => none
  | _ => none

/-- What a move can do to a sharing, with the detection that it brings to its end. -/
inductive Transition (sharing : Sharing) : Move → Option Outcome → Sharing → Prop where
  | arrived {caller : Nat} (backend : Backend)
      (absent : (sharing.callers caller).phase = .absent) :
      Transition sharing (.arrive caller backend) none
        { sharing with
          callers := replace sharing.callers caller ⟨backend, sharing.generation, .arrived⟩ }
  | informed {caller : Nat} {support : Support}
      (attends : (sharing.callers caller).phase = .arrived ∨
        (sharing.callers caller).phase = .waiting)
      (filled : (sharing.cellOf caller).value = some support) :
      Transition sharing (.look caller) none (sharing.enter caller (.answered (.ok support)))
  | began {caller : Nat}
      (attends : (sharing.callers caller).phase = .arrived)
      (unfilled : (sharing.cellOf caller).value = none)
      (free : (sharing.cellOf caller).detector = none)
      (alone : (sharing.cellOf caller).queue = []) :
      Transition sharing (.look caller) none
        ((sharing.setCell (sharing.callers caller).generation ⟨none, some caller, []⟩).enter
          caller (.detecting (Detection.detect (sharing.callers caller).backend)))
  | queued {caller : Nat}
      (attends : (sharing.callers caller).phase = .arrived)
      (unfilled : (sharing.cellOf caller).value = none)
      (busy : (sharing.cellOf caller).detector ≠ none ∨ (sharing.cellOf caller).queue ≠ []) :
      Transition sharing (.look caller) none
        ((sharing.setCell (sharing.callers caller).generation
          { sharing.cellOf caller with
            queue := (sharing.cellOf caller).queue ++ [caller] }).enter caller .waiting)
  | continued {caller : Nat} {reply : Reply} {dialogue : Dialogue (Except Failure Support)}
      (detects : (sharing.callers caller).phase = .detecting dialogue)
      (unfinished : ∀ result, dialogue.answer reply ≠ .done result) :
      Transition sharing (.proceed caller reply) none
        (sharing.enter caller (.detecting (dialogue.answer reply)))
  | succeeded {caller : Nat} {reply : Reply} {dialogue : Dialogue (Except Failure Support)}
      {support : Support}
      (detects : (sharing.callers caller).phase = .detecting dialogue)
      (ended : dialogue.answer reply = .done (.ok support)) :
      Transition sharing (.proceed caller reply)
        (some ⟨caller, (sharing.callers caller).generation, .ok support⟩)
        ((sharing.enter caller (.answered (.ok support))).setCell
          (sharing.callers caller).generation ⟨some support, none, []⟩)
  | gaveUp {caller : Nat} {reply : Reply} {dialogue : Dialogue (Except Failure Support)}
      {failure : Failure}
      (detects : (sharing.callers caller).phase = .detecting dialogue)
      (ended : dialogue.answer reply = .done (.error failure))
      (alone : (sharing.cellOf caller).queue = []) :
      Transition sharing (.proceed caller reply)
        (some ⟨caller, (sharing.callers caller).generation, .error failure⟩)
        ((sharing.enter caller (.answered (.error failure))).setCell
          (sharing.callers caller).generation
          { sharing.cellOf caller with detector := none })
  | handedOver {caller : Nat} {reply : Reply} {dialogue : Dialogue (Except Failure Support)}
      {failure : Failure} {next : Nat} {line : List Nat}
      (detects : (sharing.callers caller).phase = .detecting dialogue)
      (ended : dialogue.answer reply = .done (.error failure))
      (waits : (sharing.cellOf caller).queue = next :: line) :
      Transition sharing (.proceed caller reply)
        (some ⟨caller, (sharing.callers caller).generation, .error failure⟩)
        (((sharing.enter caller (.answered (.error failure))).setCell
          (sharing.callers caller).generation
          { sharing.cellOf caller with detector := some next, queue := line }).enter
          next (.detecting (Detection.detect (sharing.callers next).backend)))
  | reset : Transition sharing .reset none sharing.reset
  | idle (move : Move) : Transition sharing move none sharing

theorem conclude_alone {sharing : Sharing} {caller : Nat} {failure : Failure}
    (alone : (sharing.cellOf caller).queue = []) :
    sharing.conclude caller (.error failure) =
      (sharing.enter caller (.answered (.error failure))).setCell
        (sharing.callers caller).generation
        { sharing.cellOf caller with detector := none } := by
  rw [cellOf] at alone
  simp only [conclude, alone, cellOf]

theorem conclude_waited {sharing : Sharing} {caller next : Nat} {failure : Failure}
    {line : List Nat} (waits : (sharing.cellOf caller).queue = next :: line) :
    sharing.conclude caller (.error failure) =
      ((sharing.enter caller (.answered (.error failure))).setCell
        (sharing.callers caller).generation
        { sharing.cellOf caller with detector := some next, queue := line }).enter
        next (.detecting (Detection.detect (sharing.callers next).backend)) := by
  rw [cellOf] at waits
  simp only [conclude, waits, startDetection, callers_setCell, backend_enter, cellOf]

/-- Every move makes one of the transitions. -/
theorem step_transition (sharing : Sharing) (move : Move) :
    Transition sharing move (sharing.ending? move) (sharing.step move) := by
  cases move with
  | arrive caller backend =>
      simp only [step, arrive]
      split
      · next absent => exact .arrived backend absent
      · exact .idle _
  | look caller =>
      simp only [step, look]
      split
      · next arrived filled => exact .informed (.inl arrived) filled
      · next waits filled => exact .informed (.inr waits) filled
      · next arrived unfilled =>
          split
          · next free =>
              simp only [Bool.and_eq_true, Option.isNone_iff_eq_none, List.isEmpty_iff] at free
              simp only [startDetection, callers_setCell, unfilled, free.2]
              exact .began arrived unfilled free.1 free.2
          · next busy =>
              refine .queued arrived unfilled ?_
              simpa [cellOf, Classical.or_iff_not_imp_left] using busy
      · exact .idle _
  | proceed caller reply =>
      cases detects : (sharing.callers caller).phase with
      | detecting dialogue =>
          cases answered : dialogue.answer reply with
          | done result =>
              simp only [step, proceed, ending?, detects, answered]
              cases result with
              | ok support => exact .succeeded detects answered
              | error failure =>
                  cases line : (sharing.cellOf caller).queue with
                  | nil =>
                      rw [conclude_alone line]
                      exact .gaveUp detects answered line
                  | cons next rest =>
                      rw [conclude_waited line]
                      exact .handedOver detects answered line
          | _ =>
              have unfinished : ∀ result, dialogue.answer reply ≠ .done result := by
                intro result ended
                rw [answered] at ended
                cases ended
              simp only [step, proceed, ending?, detects, answered]
              rw [← answered]
              exact .continued detects unfinished
      | _ =>
          simp only [step, proceed, ending?, detects]
          exact .idle _
  | reset => exact .reset

/-! ## The invariant -/

/-- The phases of the callers of a generation; to all others the generation is unknown. -/
def phasesOf (sharing : Sharing) (generation caller : Nat) : Phase :=
  if (sharing.callers caller).generation = generation then (sharing.callers caller).phase
  else .absent

@[simp]
theorem phasesOf_own (sharing : Sharing) (caller : Nat) :
    sharing.phasesOf (sharing.callers caller).generation caller =
      (sharing.callers caller).phase := by
  simp [phasesOf]

@[simp]
theorem phasesOf_setCell (sharing : Sharing) (generation other : Nat) (cell : Cell) :
    (sharing.setCell generation cell).phasesOf other = sharing.phasesOf other := rfl

/-- A change of phase shows in the generation of the caller. -/
theorem phasesOf_enter (sharing : Sharing) (caller generation : Nat) (phase : Phase)
    (member : (sharing.callers caller).generation = generation) :
    (sharing.enter caller phase).phasesOf generation =
      replace (sharing.phasesOf generation) caller phase := by
  funext other
  by_cases same : other = caller
  · subst same
    simp [phasesOf, member]
  · simp [phasesOf, same]

/-- A change that does not reach beyond the cell of a generation and its callers. -/
structure Within (generation : Nat) (before after : Sharing) : Prop where
  current : after.generation = before.generation
  cells : ∀ other, other ≠ generation → after.cells other = before.cells other
  membership : ∀ caller, (after.callers caller).generation = (before.callers caller).generation
  callers : ∀ caller, (before.callers caller).generation ≠ generation →
    after.callers caller = before.callers caller

namespace Within

variable {generation : Nat} {first second third : Sharing}

theorem trans (left : Within generation first second) (right : Within generation second third) :
    Within generation first third where
  current := right.current.trans left.current
  cells := fun other elsewhere =>
    (right.cells other elsewhere).trans (left.cells other elsewhere)
  membership := fun caller => (right.membership caller).trans (left.membership caller)
  callers := by
    intro caller outside
    have stillOutside : (second.callers caller).generation ≠ generation := by
      rwa [left.membership caller]
    exact (right.callers caller stillOutside).trans (left.callers caller outside)

theorem enter (sharing : Sharing) (caller : Nat) (phase : Phase)
    (member : (sharing.callers caller).generation = generation) :
    Within generation sharing (sharing.enter caller phase) where
  current := rfl
  cells := fun _ _ => rfl
  membership := fun other => generation_enter sharing caller other phase
  callers := by
    intro other outside
    have different : other ≠ caller := by
      rintro rfl
      exact outside member
    exact callers_enter_other sharing caller other phase different

theorem setCell (sharing : Sharing) (cell : Cell) :
    Within generation sharing (sharing.setCell generation cell) where
  current := rfl
  cells := fun other elsewhere => cells_setCell_other sharing generation other cell elsewhere
  membership := fun _ => rfl
  callers := fun _ _ => rfl

/-- Callers of other generations keep their phases. -/
theorem phasesOf_other (within : Within generation first second) (other : Nat)
    (elsewhere : other ≠ generation) :
    second.phasesOf other = first.phasesOf other := by
  funext caller
  by_cases member : (first.callers caller).generation = other
  · have outside : (first.callers caller).generation ≠ generation := by rwa [member]
    simp [phasesOf, within.callers caller outside]
  · simp [phasesOf, within.membership caller, member]

end Within

/-- What holds of a sharing in between two moves. -/
structure Coherent (sharing : Sharing) : Prop where
  fits : ∀ generation, (sharing.cells generation).Fits (sharing.phasesOf generation)
  joined : ∀ caller, (sharing.callers caller).phase ≠ .absent →
    (sharing.callers caller).generation ≤ sharing.generation
  untouched : ∀ generation, sharing.generation < generation →
    sharing.cells generation = Cell.empty

namespace Coherent

variable {sharing after : Sharing} {caller : Nat}

/-- The cell of a caller fits the phases of its generation. -/
theorem fitsOwn (coherent : Coherent sharing) (caller : Nat) :
    (sharing.cellOf caller).Fits (sharing.phasesOf (sharing.callers caller).generation) :=
  coherent.fits (sharing.callers caller).generation

/-- Only callers of its generation wait for a cell. -/
theorem generation_of_mem_queue {generation : Nat} (coherent : Coherent sharing)
    (queued : caller ∈ (sharing.cells generation).queue) :
    (sharing.callers caller).generation = generation := by
  have waits := (((coherent.fits generation).mem_queue_iff caller).mp queued).1
  refine Decidable.byContradiction fun outside => ?_
  simp [phasesOf, outside] at waits

/-- Who stands in a queue waits. -/
theorem phase_of_mem_queue {generation : Nat} (coherent : Coherent sharing)
    (queued : caller ∈ (sharing.cells generation).queue) :
    (sharing.callers caller).phase = .waiting := by
  have waits := (((coherent.fits generation).mem_queue_iff caller).mp queued).1
  rwa [← coherent.generation_of_mem_queue queued, phasesOf_own] at waits

/-- Nobody detects for a cell that is filled. -/
theorem unfilled_of_detecting {dialogue : Dialogue (Except Failure Support)}
    (coherent : Coherent sharing)
    (detects : (sharing.callers caller).phase = .detecting dialogue) :
    (sharing.cellOf caller).value = none :=
  (coherent.fitsOwn caller).unfilled ((sharing.phasesOf_own caller).trans detects)

/-- A change within a generation keeps the invariant if the cell of the generation still fits. -/
theorem within {generation : Nat} (coherent : Coherent sharing)
    (change : Within generation sharing after) (reached : generation ≤ sharing.generation)
    (fits : (after.cells generation).Fits (after.phasesOf generation)) :
    Coherent after where
  fits := by
    intro other
    by_cases here : other = generation
    · rwa [here]
    · rw [change.cells other here, change.phasesOf_other other here]
      exact coherent.fits other
  joined := by
    intro other present
    rw [change.membership other, change.current]
    by_cases member : (sharing.callers other).generation = generation
    · rwa [member]
    · rw [change.callers other member] at present
      exact coherent.joined other present
  untouched := by
    intro other future
    rw [change.current] at future
    rw [change.cells other (by omega)]
    exact coherent.untouched other future

/-- A new caller joins the current generation. -/
theorem arrive (coherent : Coherent sharing) (backend : Backend)
    (absent : (sharing.callers caller).phase = .absent) :
    Coherent
      { sharing with
        callers := replace sharing.callers caller ⟨backend, sharing.generation, .arrived⟩ } where
  fits := by
    intro generation
    have absentHere : sharing.phasesOf generation caller = .absent := by
      simp [phasesOf, absent]
    by_cases current : sharing.generation = generation
    · have phases : phasesOf
          { sharing with
            callers := replace sharing.callers caller ⟨backend, sharing.generation, .arrived⟩ }
          generation = replace (sharing.phasesOf generation) caller .arrived := by
        funext other
        by_cases same : other = caller <;> simp [phasesOf, replace, same, current]
      rw [phases]
      exact (coherent.fits generation).arrive absentHere
    · have phases : phasesOf
          { sharing with
            callers := replace sharing.callers caller ⟨backend, sharing.generation, .arrived⟩ }
          generation = sharing.phasesOf generation := by
        funext other
        by_cases same : other = caller
        · subst same
          simp [phasesOf, current, absent]
        · simp [phasesOf, same]
      rw [phases]
      exact coherent.fits generation
  joined := by
    intro other present
    by_cases same : other = caller
    · simp [same]
    · simp only [replace_other _ _ _ _ same] at present ⊢
      exact coherent.joined other present
  untouched := coherent.untouched

/-- The cell of the next generation is empty, so that installing it changes no cell. -/
theorem reset (coherent : Coherent sharing) : Coherent sharing.reset := by
  have cells : sharing.reset.cells = sharing.cells := by
    funext generation
    by_cases next : generation = sharing.generation + 1
    · simp [Sharing.reset, next, coherent.untouched]
    · simp [Sharing.reset, next]
  constructor
  · intro generation
    rw [cells]
    exact coherent.fits generation
  · intro caller present
    exact Nat.le_succ_of_le (coherent.joined caller present)
  · intro generation future
    rw [cells]
    exact coherent.untouched generation (Nat.lt_of_succ_lt future)

/-- Every transition keeps the invariant. -/
theorem transition {move : Move} {outcome : Option Outcome} (coherent : Coherent sharing)
    (transition : Transition sharing move outcome after) :
    Coherent after := by
  cases transition with
  | arrived backend absent => exact coherent.arrive backend absent
  | @informed caller support attends filled =>
      refine coherent.within (.enter sharing caller _ rfl) (coherent.joined caller ?_) ?_
      · rcases attends with arrived | waits <;> simp [*]
      · rw [phasesOf_enter _ _ _ _ rfl]
        exact (coherent.fitsOwn caller).inform filled
  | @began caller attends unfilled free alone =>
      refine coherent.within ((Within.setCell sharing _).trans (.enter _ caller _ rfl))
        (coherent.joined caller (by simp [attends])) ?_
      rw [phasesOf_enter, phasesOf_setCell, cells_enter, cells_setCell_same]
      · exact (coherent.fitsOwn caller).begin unfilled free alone
      · rfl
  | @queued caller attends unfilled busy =>
      refine coherent.within ((Within.setCell sharing _).trans (.enter _ caller _ rfl))
        (coherent.joined caller (by simp [attends])) ?_
      have fits := coherent.fitsOwn caller
      have detected : (sharing.cellOf caller).detector ≠ none := busy.elim id fits.attended
      rw [phasesOf_enter, phasesOf_setCell, cells_enter, cells_setCell_same]
      · exact fits.wait (by simpa using attends) unfilled detected
      · rfl
  | @continued caller reply dialogue detects unfinished =>
      refine coherent.within (.enter sharing caller _ rfl)
        (coherent.joined caller (by simp [detects])) ?_
      rw [phasesOf_enter _ _ _ _ rfl]
      exact (coherent.fitsOwn caller).proceed (by simpa using detects)
  | @succeeded caller reply dialogue support detects ended =>
      refine coherent.within ((Within.enter sharing caller _ rfl).trans (.setCell _ _))
        (coherent.joined caller (by simp [detects])) ?_
      rw [phasesOf_setCell, phasesOf_enter _ _ _ _ rfl, cells_setCell_same]
      exact (coherent.fitsOwn caller).fill (by simpa using detects)
  | @gaveUp caller reply dialogue failure detects ended alone =>
      refine coherent.within ((Within.enter sharing caller _ rfl).trans (.setCell _ _))
        (coherent.joined caller (by simp [detects])) ?_
      rw [phasesOf_setCell, phasesOf_enter _ _ _ _ rfl, cells_setCell_same]
      exact (coherent.fitsOwn caller).giveUp (by simpa using detects) alone
  | @handedOver caller reply dialogue failure next line detects ended waits =>
      have fits := coherent.fitsOwn caller
      have nextMember : (sharing.callers next).generation =
          (sharing.callers caller).generation :=
        coherent.generation_of_mem_queue (by rw [← cellOf, waits]; exact List.mem_cons_self)
      refine coherent.within
        (((Within.enter sharing caller _ rfl).trans (.setCell _ _)).trans
          (.enter _ next _ (by simpa using nextMember)))
        (coherent.joined caller (by simp [detects])) ?_
      rw [phasesOf_enter _ _ _ _ (by simpa using nextMember), phasesOf_setCell,
        phasesOf_enter _ _ _ _ rfl, cells_enter, cells_setCell_same]
      exact fits.handOver (by simpa using detects) waits
  | reset => exact coherent.reset
  | idle => exact coherent

/-- A cache that nobody uses yet satisfies the invariant. -/
theorem ofCache (cache : Cache) : Coherent (ofCache cache) where
  fits := by
    intro generation
    have absent : ∀ caller, (Sharing.ofCache cache).phasesOf generation caller = .absent := by
      intro caller
      unfold phasesOf
      split <;> rfl
    by_cases first : generation = 0
    · subst first
      exact .unattended cache.known absent
    · have empty : (Sharing.ofCache cache).cells generation = ⟨none, none, []⟩ := by
        simp [Sharing.ofCache, first, Cell.empty]
      rw [empty]
      exact .unattended none absent
  joined := fun caller present => absurd rfl present
  untouched := by
    intro generation future
    have later : generation ≠ 0 := Nat.ne_of_gt future
    simp [Sharing.ofCache, later]

/-- Every move keeps the invariant. -/
theorem step (coherent : Coherent sharing) (move : Move) : Coherent (sharing.step move) :=
  coherent.transition (step_transition sharing move)

end Coherent

/-! ## Runs -/

@[simp]
theorem run_nil (sharing : Sharing) : sharing.run [] = sharing := rfl

@[simp]
theorem run_cons (sharing : Sharing) (move : Move) (moves : List Move) :
    sharing.run (move :: moves) = (sharing.step move).run moves := rfl

theorem run_append (sharing : Sharing) (earlier later : List Move) :
    sharing.run (earlier ++ later) = (sharing.run earlier).run later :=
  List.foldl_append

/-- The invariant holds along every run. -/
theorem Coherent.run {sharing : Sharing} (coherent : Coherent sharing) (moves : List Move) :
    Coherent (sharing.run moves) := by
  induction moves generalizing sharing with
  | nil => exact coherent
  | cons move moves inductionHypothesis => exact inductionHypothesis (coherent.step move)

end Sharing

end TablePartitioning
