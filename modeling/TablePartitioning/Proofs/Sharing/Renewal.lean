import TablePartitioning.Proofs.Sharing.Outcomes

/-!
# A shared cache after it has been emptied

Emptying a cache makes it forget: whatever the callers that arrived before still do, those that
arrive later cannot tell the cache from a new one.  `Renewed` relates a sharing that has been
emptied to one that starts anew, and holds as long as the moves of the earlier callers are left
out of the second run.
-/

namespace TablePartitioning

/-- A caller that stands in one sharing as another does in a sharing that began later. -/
def Caller.Counterpart (offset : Nat) (here there : Caller) : Prop :=
  here = { there with generation := offset + there.generation } ∨
    here.phase = .absent ∧ there.phase = .absent

theorem Caller.Counterpart.phase {offset : Nat} {here there : Caller}
    (counterpart : Caller.Counterpart offset here there) :
    here.phase = there.phase := by
  rcases counterpart with rfl | ⟨hereAbsent, thereAbsent⟩
  · rfl
  · rw [hereAbsent, thereAbsent]

namespace Sharing

/-- The caller that makes a move. -/
def Move.caller? : Move → Option Nat
  | .arrive caller _ => some caller
  | .look caller => some caller
  | .proceed caller _ => some caller
  | .reset => none

/-- A caller arrives only once. -/
theorem arrive_again {sharing : Sharing} {caller : Nat} (backend : Backend)
    (arrived : (sharing.callers caller).phase ≠ .absent) :
    sharing.arrive caller backend = sharing := by
  unfold arrive
  split
  · next absent => exact absurd absent arrived
  · rfl

/-- Whether a move is not made by somebody who has arrived already. -/
def isLater (past : Sharing) (move : Move) : Bool :=
  match Move.caller? move with
  | some caller => (past.callers caller).phase.isAbsent
  | none => true

/--
A sharing that was emptied in the past, and one that starts anew: the generations since then, and
the callers that have arrived since then, are the same in both.
-/
structure Renewed (past present anew : Sharing) : Prop where
  current : present.generation = past.generation + 1 + anew.generation
  cells : ∀ generation,
    present.cells (past.generation + 1 + generation) = anew.cells generation
  later : ∀ caller, (past.callers caller).phase = .absent →
    Caller.Counterpart (past.generation + 1) (present.callers caller) (anew.callers caller)
  earlier : ∀ caller, (past.callers caller).phase ≠ .absent →
    (present.callers caller).phase ≠ .absent ∧
      (present.callers caller).generation ≤ past.generation

namespace Renewed

variable {past present anew : Sharing} {caller : Nat}

/-- Emptying a cache and starting anew come to the same. -/
theorem ofReset (coherent : Coherent past) :
    Renewed past past.reset (ofCache Cache.empty) where
  current := rfl
  cells := by
    intro generation
    by_cases first : generation = 0
    · simp [first, reset, ofCache, Cell.empty, Cache.empty]
    · have untouched := coherent.untouched (past.generation + 1 + generation) (by omega)
      simp [first, reset, ofCache, untouched]
  later := fun caller absent => .inr ⟨absent, rfl⟩
  earlier := fun caller arrived => ⟨arrived, coherent.joined caller arrived⟩

/-! ## Changes that the earlier callers make -/

theorem enter_earlier (renewed : Renewed past present anew) (phase : Phase)
    (arrived : (past.callers caller).phase ≠ .absent) (stays : phase ≠ .absent) :
    Renewed past (present.enter caller phase) anew where
  current := renewed.current
  cells := renewed.cells
  later := by
    intro other absent
    have different : other ≠ caller := by
      rintro rfl
      exact arrived absent
    rw [callers_enter_other _ _ _ _ different]
    exact renewed.later other absent
  earlier := by
    intro other otherArrived
    by_cases same : other = caller
    · subst same
      simpa [stays] using (renewed.earlier other otherArrived).2
    · simpa [same] using renewed.earlier other otherArrived

theorem setCell_earlier (renewed : Renewed past present anew) {generation : Nat} (cell : Cell)
    (old : generation ≤ past.generation) :
    Renewed past (present.setCell generation cell) anew where
  current := renewed.current
  cells := by
    intro other
    rw [cells_setCell_other _ _ _ _ (by omega)]
    exact renewed.cells other
  later := renewed.later
  earlier := renewed.earlier

/-- Whatever an earlier caller does, nobody that arrives later notices. -/
theorem transition_earlier {move : Move} {outcome : Option Outcome} {after : Sharing}
    (renewed : Renewed past present anew) (coherent : Coherent present)
    (transition : Transition present move outcome after)
    (mover : Move.caller? move = some caller)
    (arrived : (past.callers caller).phase ≠ .absent) :
    Renewed past after anew := by
  obtain ⟨here, old⟩ := renewed.earlier caller arrived
  cases transition with
  | arrived backend absent =>
      cases mover
      exact absurd absent here
  | informed attends filled =>
      cases mover
      exact renewed.enter_earlier _ arrived (by simp)
  | began attends unfilled free alone =>
      cases mover
      exact (renewed.setCell_earlier _ old).enter_earlier _ arrived (by simp)
  | queued attends unfilled busy =>
      cases mover
      exact (renewed.setCell_earlier _ old).enter_earlier _ arrived (by simp)
  | continued detects unfinished =>
      cases mover
      exact renewed.enter_earlier _ arrived (by simp)
  | succeeded detects ended =>
      cases mover
      exact (renewed.enter_earlier _ arrived (by simp)).setCell_earlier _ old
  | gaveUp detects ended alone =>
      cases mover
      exact (renewed.enter_earlier _ arrived (by simp)).setCell_earlier _ old
  | @handedOver _ reply dialogue failure next line detects ended waits =>
      cases mover
      have queued : next ∈ (present.cells (present.callers caller).generation).queue :=
        waits ▸ List.mem_cons_self
      have nextOld : (present.callers next).generation ≤ past.generation := by
        rw [coherent.generation_of_mem_queue queued]
        exact old
      have nextArrived : (past.callers next).phase ≠ .absent := by
        intro absent
        have nextWaits := coherent.phase_of_mem_queue queued
        rcases renewed.later next absent with same | ⟨nextAbsent, -⟩
        · have generation := congrArg Caller.generation same
          simp only at generation
          omega
        · rw [nextWaits] at nextAbsent
          cases nextAbsent
      exact ((renewed.enter_earlier _ arrived (by simp)).setCell_earlier _ old).enter_earlier _
        nextArrived (by simp)
  | reset => cases mover
  | idle => exact renewed

/-! ## Changes that the later callers make -/

theorem enter_later (renewed : Renewed past present anew) (phase : Phase)
    (absent : (past.callers caller).phase = .absent)
    (here : (present.callers caller).phase ≠ .absent) :
    Renewed past (present.enter caller phase) (anew.enter caller phase) where
  current := renewed.current
  cells := renewed.cells
  later := by
    intro other otherAbsent
    by_cases same : other = caller
    · subst same
      rcases renewed.later other absent with record | ⟨hereAbsent, -⟩
      · exact .inl (by simp [enter, record])
      · exact absurd hereAbsent here
    · simpa [same] using renewed.later other otherAbsent
  earlier := by
    intro other otherArrived
    have different : other ≠ caller := by
      rintro rfl
      exact otherArrived absent
    simpa [different] using renewed.earlier other otherArrived

theorem setCell_later (renewed : Renewed past present anew) (generation : Nat) (cell : Cell) :
    Renewed past (present.setCell (past.generation + 1 + generation) cell)
      (anew.setCell generation cell) where
  current := renewed.current
  cells := by
    intro other
    by_cases same : other = generation
    · simp [same]
    · simpa [same] using renewed.cells other
  later := renewed.later
  earlier := renewed.earlier

theorem startDetection_later (renewed : Renewed past present anew)
    (absent : (past.callers caller).phase = .absent)
    (here : (present.callers caller).phase ≠ .absent) :
    Renewed past (present.startDetection caller) (anew.startDetection caller) := by
  rcases renewed.later caller absent with record | ⟨hereAbsent, -⟩
  · have backend : (present.callers caller).backend = (anew.callers caller).backend := by
      rw [record]
    simpa only [startDetection, backend] using renewed.enter_later _ absent here
  · exact absurd hereAbsent here

theorem arrive_later (renewed : Renewed past present anew) (backend : Backend)
    (absent : (past.callers caller).phase = .absent) :
    Renewed past (present.arrive caller backend) (anew.arrive caller backend) := by
  have phase := (renewed.later caller absent).phase
  by_cases hereAbsent : (present.callers caller).phase = .absent
  · have thereAbsent : (anew.callers caller).phase = .absent := by rwa [← phase]
    simp only [arrive, hereAbsent, thereAbsent]
    refine ⟨renewed.current, renewed.cells, ?_, ?_⟩
    · intro other otherAbsent
      by_cases same : other = caller
      · subst same
        exact .inl (by simp [renewed.current])
      · simpa [same] using renewed.later other otherAbsent
    · intro other otherArrived
      have different : other ≠ caller := by
        rintro rfl
        exact otherArrived absent
      simpa [different] using renewed.earlier other otherArrived
  · have thereArrived : (anew.callers caller).phase ≠ .absent := by rwa [← phase]
    rw [arrive_again backend hereAbsent, arrive_again backend thereArrived]
    exact renewed

theorem look_later (renewed : Renewed past present anew)
    (absent : (past.callers caller).phase = .absent) :
    Renewed past (present.look caller) (anew.look caller) := by
  rcases renewed.later caller absent with record | ⟨hereAbsent, thereAbsent⟩
  · have phase : (present.callers caller).phase = (anew.callers caller).phase := by rw [record]
    have generation : (present.callers caller).generation =
        past.generation + 1 + (anew.callers caller).generation := by rw [record]
    have cell : present.cells (present.callers caller).generation =
        anew.cells (anew.callers caller).generation := by
      rw [generation, renewed.cells]
    simp only [look, phase, cell]
    split
    · next arrived filled =>
        exact renewed.enter_later _ absent (by simp [phase, arrived])
    · next waits filled =>
        exact renewed.enter_later _ absent (by simp [phase, waits])
    · next arrived unfilled =>
        have here : (present.callers caller).phase ≠ .absent := by simp [phase, arrived]
        rw [generation]
        split
        · exact (renewed.setCell_later _ _).startDetection_later absent here
        · exact (renewed.setCell_later _ _).enter_later _ absent here
    · exact renewed
  · simpa only [look, hereAbsent, thereAbsent] using renewed

theorem conclude_later (renewed : Renewed past present anew) (coherent : Coherent present)
    (result : Except Failure Support)
    (absent : (past.callers caller).phase = .absent)
    (here : (present.callers caller).phase ≠ .absent) :
    Renewed past (present.conclude caller result) (anew.conclude caller result) := by
  rcases renewed.later caller absent with record | ⟨hereAbsent, -⟩
  · have generation : (present.callers caller).generation =
        past.generation + 1 + (anew.callers caller).generation := by rw [record]
    have cell : present.cells (present.callers caller).generation =
        anew.cells (anew.callers caller).generation := by
      rw [generation, renewed.cells]
    have answered := renewed.enter_later (.answered result) absent here
    simp only [conclude, cell]
    rw [generation]
    split
    · exact answered.setCell_later _ _
    · split
      · exact answered.setCell_later _ _
      · next next line queue =>
          -- the next in the queue has joined the same generation, and so has arrived later too
          have queued : next ∈ (present.cells (present.callers caller).generation).queue := by
            rw [cell, queue]
            exact List.mem_cons_self
          have nextWaits := coherent.phase_of_mem_queue queued
          have nextAbsent : (past.callers next).phase = .absent := by
            refine Classical.byContradiction fun arrived => ?_
            have old := (renewed.earlier next arrived).2
            rw [coherent.generation_of_mem_queue queued, generation] at old
            omega
          refine (answered.setCell_later _ _).startDetection_later nextAbsent ?_
          by_cases same : next = caller <;> simp [same, nextWaits]
  · exact absurd hereAbsent here

theorem proceed_later (renewed : Renewed past present anew) (coherent : Coherent present)
    (reply : Reply) (absent : (past.callers caller).phase = .absent) :
    Renewed past (present.proceed caller reply) (anew.proceed caller reply) := by
  have phase := (renewed.later caller absent).phase
  simp only [proceed, phase]
  split
  · next dialogue detects =>
      have here : (present.callers caller).phase ≠ .absent := by simp [phase, detects]
      split
      · exact renewed.conclude_later coherent _ absent here
      · exact renewed.enter_later _ absent here
  · exact renewed

theorem reset_both (renewed : Renewed past present anew) :
    Renewed past present.reset anew.reset where
  current := by
    simp only [reset, renewed.current]
    omega
  cells := by
    intro generation
    by_cases next : generation = anew.generation + 1
    · subst next
      simp [reset, renewed.current, Nat.add_assoc]
    · have elsewhere : past.generation + 1 + generation ≠ present.generation + 1 := by
        rw [renewed.current]
        omega
      simpa [reset, next, elsewhere] using renewed.cells generation
  later := renewed.later
  earlier := renewed.earlier

/-! ## Runs -/

/-- A move keeps two sharings alike, if an earlier caller's move is left out of the second. -/
theorem step (renewed : Renewed past present anew) (coherent : Coherent present) (move : Move) :
    Renewed past (present.step move) (if isLater past move then anew.step move else anew) := by
  by_cases later : isLater past move = true
  · rw [if_pos later]
    cases move with
    | arrive caller backend =>
        exact renewed.arrive_later backend ((Phase.isAbsent_iff _).mp later)
    | look caller => exact renewed.look_later ((Phase.isAbsent_iff _).mp later)
    | proceed caller reply =>
        exact renewed.proceed_later coherent reply ((Phase.isAbsent_iff _).mp later)
    | reset => exact renewed.reset_both
  · rw [if_neg later]
    cases mover : Move.caller? move with
    | none => simp [isLater, mover] at later
    | some caller =>
        refine renewed.transition_earlier coherent (step_transition present move) mover ?_
        simpa [isLater, mover, Phase.isAbsent_iff] using later

/-- A run of an emptied cache looks to later callers like a run of a new one without the others. -/
theorem run (renewed : Renewed past present anew) (coherent : Coherent present)
    (moves : List Move) :
    Renewed past (present.run moves) (anew.run (moves.filter (isLater past))) := by
  induction moves generalizing present anew with
  | nil => exact renewed
  | cons move moves inductionHypothesis =>
      have stepped := renewed.step coherent move
      have rest := inductionHypothesis stepped (coherent.step move)
      by_cases later : isLater past move = true
      · simpa [later] using rest
      · simpa [later] using rest

theorem peek_eq (renewed : Renewed past present anew) : present.peek = anew.peek := by
  simp only [peek, cache, renewed.current, renewed.cells]

end Renewed

end Sharing

end TablePartitioning
