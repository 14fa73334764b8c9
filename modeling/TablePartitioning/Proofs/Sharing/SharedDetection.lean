import TablePartitioning.Proofs.Sharing.Renewal

/-!
# One detection for all callers of a shared cache

The main statement, `run_sharedDetection`, puts together what every interleaving of callers,
failing servers, looks at the cache and resets guarantees: callers of a generation detect one
after the other, until one of them finds something out; that is what all of them are told and what
the cache shows; a failure concerns only the caller that met it; and nothing from before a reset
is seen after it.
-/

namespace TablePartitioning

namespace Sharing

variable {sharing : Sharing} {caller : Nat}

/-- Callers of one generation detect one at a time. -/
theorem Coherent.detector_unique (coherent : Coherent sharing) {first second : Nat}
    (together : (sharing.callers first).generation = (sharing.callers second).generation)
    (firstDetects : (sharing.callers first).phase.isDetecting = true)
    (secondDetects : (sharing.callers second).phase.isDetecting = true) :
    first = second := by
  have fits := coherent.fitsOwn first
  have firstOwns : (sharing.cellOf first).detector = some first :=
    (fits.detector_iff first).mpr (by rwa [phasesOf_own])
  have secondOwns : (sharing.cellOf first).detector = some second :=
    (fits.detector_iff second).mpr (by rwa [together, phasesOf_own])
  exact Option.some.inj (firstOwns.symm.trans secondOwns)

/-- Whoever waits for an empty cell waits for somebody that detects. -/
theorem Coherent.waiting_attended (coherent : Coherent sharing)
    (waits : (sharing.callers caller).phase = .waiting)
    (unfilled : (sharing.cellOf caller).value = none) :
    ∃ detector, (sharing.callers detector).generation = (sharing.callers caller).generation ∧
      (sharing.callers detector).phase.isDetecting = true := by
  have fits := coherent.fitsOwn caller
  have queued : caller ∈ (sharing.cellOf caller).queue :=
    (fits.mem_queue_iff caller).mpr ⟨by rwa [phasesOf_own], unfilled⟩
  have owned := fits.attended (List.ne_nil_of_mem queued)
  obtain ⟨detector, owns⟩ := Option.ne_none_iff_exists'.mp owned
  refine ⟨detector, ?_⟩
  have detects := (fits.detector_iff detector).mp owns
  by_cases member : (sharing.callers detector).generation = (sharing.callers caller).generation
  · exact ⟨member, by simpa [phasesOf, member] using detects⟩
  · simp [phasesOf, member, Phase.isDetecting] at detects

/-- A caller that finds its cell empty, with nobody detecting for it, detects for itself. -/
theorem Coherent.look_begins (coherent : Coherent sharing)
    (arrived : (sharing.callers caller).phase = .arrived)
    (unfilled : (sharing.cellOf caller).value = none)
    (idle : ∀ other, (sharing.callers other).generation = (sharing.callers caller).generation →
      (sharing.callers other).phase.isDetecting = false) :
    ((sharing.step (.look caller)).callers caller).phase =
      .detecting (Detection.detect (sharing.callers caller).backend) := by
  have fits := coherent.fitsOwn caller
  have free : (sharing.cellOf caller).detector = none := by
    refine Option.eq_none_iff_forall_ne_some.mpr fun detector owns => ?_
    have detects := (fits.detector_iff detector).mp owns
    by_cases member :
        (sharing.callers detector).generation = (sharing.callers caller).generation
    · simp [phasesOf, member, idle detector member] at detects
    · simp [phasesOf, member, Phase.isDetecting] at detects
  have alone : (sharing.cellOf caller).queue = [] :=
    Classical.byContradiction fun queued => fits.attended queued free
  unfold cellOf at unfilled free alone
  simp [Sharing.step, look, arrived, unfilled, free, alone, startDetection]

/-- What becomes of the others when the detection of a caller fails. -/
def PassesOn (before after : Sharing) (caller generation : Nat) : Prop :=
  (∃ next, (before.cells generation).queue.head? = some next ∧
    (before.callers next).phase = .waiting ∧
    (before.callers next).generation = generation ∧
    (after.callers next).phase = .detecting (Detection.detect (before.callers next).backend) ∧
    ∀ other, other ≠ caller → other ≠ next → after.callers other = before.callers other) ∨
  ((∀ other, (before.callers other).generation = generation →
      (before.callers other).phase ≠ .waiting) ∧
    (∀ other, (after.callers other).generation = generation →
      (after.callers other).phase.isDetecting = false) ∧
    ∀ other, other ≠ caller → after.callers other = before.callers other)

/--
A failure is told to the caller that detected, and the cell stays empty.  The first that waits
detects for itself; if nobody waits, nobody detects any more.
-/
theorem Coherent.failure_spec (coherent : Coherent sharing) {reply : Reply} {generation : Nat}
    {failure : Failure}
    (ending : sharing.ending? (.proceed caller reply) =
      some ⟨caller, generation, .error failure⟩) :
    ((sharing.step (.proceed caller reply)).callers caller).phase =
        .answered (.error failure) ∧
      ((sharing.step (.proceed caller reply)).cells generation).value = none ∧
      PassesOn sharing (sharing.step (.proceed caller reply)) caller generation := by
  have afterwards := coherent.step (.proceed caller reply)
  have transition := ending ▸ step_transition sharing (.proceed caller reply)
  obtain ⟨-, told, -, value⟩ := transition.outcome_spec coherent
  refine ⟨told, value, ?_⟩
  generalize sharing.step (.proceed caller reply) = after at *
  cases transition with
  | gaveUp detects ended alone =>
      refine .inr ⟨?_, ?_, ?_⟩
      · intro other member waits
        have queued := ((coherent.fitsOwn caller).mem_queue_iff other).mpr
          ⟨by rw [← member, phasesOf_own, waits], coherent.unfilled_of_detecting detects⟩
        rw [alone] at queued
        cases queued
      · intro other member
        have free := (afterwards.fits (sharing.callers caller).generation).detector_iff other
        rw [phasesOf, if_pos member] at free
        simpa using free
      · intro other different
        simp [different]
  | @handedOver _ _ dialogue _ next line detects ended waits =>
      have queued : next ∈ (sharing.cells (sharing.callers caller).generation).queue :=
        waits ▸ List.mem_cons_self
      refine .inl ⟨next, ?_, coherent.phase_of_mem_queue queued,
        coherent.generation_of_mem_queue queued, by simp, ?_⟩
      · exact congrArg List.head? waits
      · intro other notCaller notNext
        simp [notCaller, notNext]

/-- What the cache shows while a generation is current and filled is what its cell ends up with. -/
theorem Coherent.peek_eq (coherent : Coherent sharing) (moves : List Move) {support : Support}
    (checked : sharing.peek.checked = true)
    (value : ((sharing.run moves).cells sharing.generation).value = some support) :
    sharing.peek = Capability.ofSupport support := by
  unfold peek cache Cache.peek at checked ⊢
  cases shown : (sharing.cells sharing.generation).value with
  | none => simp [shown, Capability.ofOption, Capability.unknown] at checked
  | some found =>
      rw [coherent.value_run moves shown, Option.some.injEq] at value
      simp [Capability.ofOption, value]

/-- What the cell of a generation holds before the first move. -/
theorem value_ofCache (cache : Cache) (generation : Nat) :
    ((ofCache cache).cells generation).value = if generation = 0 then cache.known else none := by
  by_cases first : generation = 0 <;> simp [ofCache, replace, first, Cell.empty]

/-! ## The laws of a shared cache -/

/-- What a shared cache that starts with some knowledge guarantees after some moves. -/
structure SharedDetection (cache : Cache) (moves : List Move) (final : Sharing) : Prop where
  /-- Callers of a generation detect one at a time. -/
  oneDetector : ∀ first second,
    (final.callers first).generation = (final.callers second).generation →
    (final.callers first).phase.isDetecting = true →
    (final.callers second).phase.isDetecting = true → first = second
  /-- In the whole run, at most one detection for a generation finds something out. -/
  oneSuccess : ∀ generation,
    (((ofCache cache).outcomes moves).filter fun ended =>
      ended.generation = generation && ended.succeeded).length ≤ 1
  /-- Callers of a generation that are told of a capability are told of the same one. -/
  sameAnswer : ∀ caller other support found,
    (final.callers caller).generation = (final.callers other).generation →
    (final.callers caller).phase = .answered (.ok support) →
    (final.callers other).phase = .answered (.ok found) → support = found
  /-- It is what the cache showed and shows while the generation was current and filled. -/
  shown : ∀ caller support, (final.callers caller).phase = .answered (.ok support) →
    (final.cellOf caller).value = some support ∧
    ∀ earlier, earlier <+: moves →
      ((ofCache cache).run earlier).generation = (final.callers caller).generation →
      ((ofCache cache).run earlier).peek.checked = true →
      ((ofCache cache).run earlier).peek = Capability.ofSupport support
  /-- It was known from the start, or found out by a detection for the same generation. -/
  found : ∀ caller support, (final.callers caller).phase = .answered (.ok support) →
    ((final.callers caller).generation = 0 ∧ cache.known = some support) ∨
    ∃ ended ∈ (ofCache cache).outcomes moves,
      ended.generation = (final.callers caller).generation ∧ ended.result = .ok support
  /-- A caller is told of a failure exactly if its own detection ended with it. -/
  failureOwn : ∀ caller failure,
    (final.callers caller).phase = .answered (.error failure) ↔
      ⟨caller, (final.callers caller).generation, .error failure⟩ ∈
        (ofCache cache).outcomes moves
  /-- A detection that fails leaves its cell empty and to the first caller that waits. -/
  failurePassesOn : ∀ caller reply generation failure,
    final.ending? (.proceed caller reply) = some ⟨caller, generation, .error failure⟩ →
    ((final.step (.proceed caller reply)).callers caller).phase = .answered (.error failure) ∧
    ((final.step (.proceed caller reply)).cells generation).value = none ∧
    PassesOn final (final.step (.proceed caller reply)) caller generation
  /-- A caller that finds its cell empty, with nobody detecting for it, detects for itself. -/
  nextDetects : ∀ caller, (final.callers caller).phase = .arrived →
    (final.cellOf caller).value = none →
    (∀ other, (final.callers other).generation = (final.callers caller).generation →
      (final.callers other).phase.isDetecting = false) →
    ((final.step (.look caller)).callers caller).phase =
      .detecting (Detection.detect (final.callers caller).backend)
  /-- Nobody waits for an empty cell without somebody detecting for it. -/
  waitingAttended : ∀ caller, (final.callers caller).phase = .waiting →
    (final.cellOf caller).value = none →
    ∃ detector, (final.callers detector).generation = (final.callers caller).generation ∧
      (final.callers detector).phase.isDetecting = true
  /--
  After a reset, what the cache shows and what callers that arrive later are told is the same as
  with a new cache that the earlier callers have nothing to do with.
  -/
  forgets : ∀ later : List Move,
    let emptied := (final.step .reset).run later
    let anew := (ofCache Cache.empty).run (later.filter (isLater final))
    emptied.peek = anew.peek ∧
    (∀ generation, (emptied.cells (final.generation + 1 + generation)).value =
      (anew.cells generation).value) ∧
    ∀ caller, (final.callers caller).phase = .absent →
      (emptied.callers caller).phase = (anew.callers caller).phase ∧
      ((emptied.callers caller).phase ≠ .absent →
        (emptied.callers caller).generation =
          final.generation + 1 + (anew.callers caller).generation)

/-- A caller that waits takes over from one that fails; what it finds after a reset stays hidden. -/
example (silence : Reply) :
    let failing : Reply := { silence with version := .error (.custom "gone") }
    let final := (ofCache .empty).run
      [.arrive 0 .mysql, .look 0, .arrive 1 .postgres, .look 1, .proceed 0 failing, .reset,
        .proceed 1 silence]
    (final.callers 1).phase = .answered (.ok (.supported .postgresDeclarative)) ∧
      final.peek = Capability.unknown :=
  ⟨rfl, rfl⟩

end Sharing

end TablePartitioning
