import TablePartitioning.Proofs.Sharing.Coherence

/-!
# What comes of the detections in a shared cache

`outcomes` is the list of the detections that end in a run.  It accounts for everything that the
callers are told: a caller is told of a failure only by its own detection, and a value that a cell
holds was there from the beginning or comes from a detection for that very cell.  A value is never
replaced, so no more than one detection for a generation can find something out.
-/

namespace TablePartitioning

namespace Sharing

variable {sharing after : Sharing} {move : Move} {outcome : Option Outcome}

/-- The detections that come to their end in a run, in order. -/
def outcomes (sharing : Sharing) : List Move → List Outcome
  | [] => []
  | move :: moves => (sharing.ending? move).toList ++ (sharing.step move).outcomes moves

/-! ## What one move does to a caller -/

/-- How a caller may stand after a move, with the detection that the move brings to its end. -/
inductive Progress (sharing : Sharing) (outcome : Option Outcome) (caller : Nat) : Caller → Prop where
  | same : Progress sharing outcome caller (sharing.callers caller)
  | arrives (backend : Backend) (absent : (sharing.callers caller).phase = .absent) :
      Progress sharing outcome caller ⟨backend, sharing.generation, .arrived⟩
  | learns {support : Support}
      (attends : (sharing.callers caller).phase = .arrived ∨
        (sharing.callers caller).phase = .waiting) :
      Progress sharing outcome caller
        { sharing.callers caller with phase := .answered (.ok support) }
  | begins
      (attends : (sharing.callers caller).phase = .arrived ∨
        (sharing.callers caller).phase = .waiting) :
      Progress sharing outcome caller
        { sharing.callers caller with
          phase := .detecting (Detection.detect (sharing.callers caller).backend) }
  | waits (attends : (sharing.callers caller).phase = .arrived) :
      Progress sharing outcome caller { sharing.callers caller with phase := .waiting }
  | continues {dialogue rest : Dialogue (Except Failure Support)}
      (detects : (sharing.callers caller).phase = .detecting dialogue) :
      Progress sharing outcome caller { sharing.callers caller with phase := .detecting rest }
  | ends {dialogue : Dialogue (Except Failure Support)} {result : Except Failure Support}
      (detects : (sharing.callers caller).phase = .detecting dialogue)
      (own : outcome = some ⟨caller, (sharing.callers caller).generation, result⟩) :
      Progress sharing outcome caller
        { sharing.callers caller with phase := .answered result }

/-- Every caller takes one of these steps in every move. -/
theorem Transition.progress (transition : Transition sharing move outcome after)
    (coherent : Coherent sharing) (caller : Nat) :
    Progress sharing outcome caller (after.callers caller) := by
  cases transition with
  | @arrived mover backend absent =>
      by_cases own : caller = mover
      · subst own
        simpa using .arrives backend absent
      · simpa [own] using .same
  | @informed mover support attends filled =>
      by_cases own : caller = mover
      · subst own
        simpa [enter] using .learns attends
      · simpa [own] using .same
  | @began mover attends unfilled free alone =>
      by_cases own : caller = mover
      · subst own
        simpa [enter] using .begins (.inl attends)
      · simpa [own] using .same
  | @queued mover attends unfilled busy =>
      by_cases own : caller = mover
      · subst own
        simpa [enter] using .waits attends
      · simpa [own] using .same
  | @continued mover reply dialogue detects unfinished =>
      by_cases own : caller = mover
      · subst own
        simpa [enter] using .continues detects
      · simpa [own] using .same
  | @succeeded mover reply dialogue support detects ended =>
      by_cases own : caller = mover
      · subst own
        simpa [enter] using .ends detects rfl
      · simpa [own] using .same
  | @gaveUp mover reply dialogue failure detects ended alone =>
      by_cases own : caller = mover
      · subst own
        simpa [enter] using .ends detects rfl
      · simpa [own] using .same
  | @handedOver mover reply dialogue failure next line detects ended waits =>
      have nextWaits : (sharing.callers next).phase = .waiting :=
        coherent.phase_of_mem_queue (waits ▸ List.mem_cons_self)
      have moverStays : mover ≠ next := ne_of_phase detects nextWaits (by simp)
      by_cases own : caller = mover
      · subst own
        simpa [enter, moverStays] using .ends detects rfl
      · by_cases taken : caller = next
        · subst taken
          simpa [enter, own] using .begins (.inr nextWaits)
        · simpa [own, taken] using .same
  | reset => exact .same
  | idle => exact .same

namespace Progress

variable {caller : Nat} {next : Caller}

/-- A caller that has been answered stays as it is. -/
theorem answered_kept (progress : Progress sharing outcome caller next)
    {result : Except Failure Support}
    (answered : (sharing.callers caller).phase = .answered result) :
    next = sharing.callers caller := by
  cases progress with
  | same => rfl
  | arrives backend absent => simp [answered] at absent
  | learns attends => simp [answered] at attends
  | begins attends => simp [answered] at attends
  | waits attends => simp [answered] at attends
  | continues detects => simp [answered] at detects
  | ends detects own => simp [answered] at detects

/-- A caller is told of a failure by nothing but its own detection. -/
theorem failure_own (progress : Progress sharing outcome caller next) {failure : Failure}
    (told : next.phase = .answered (.error failure)) :
    (sharing.callers caller).phase = .answered (.error failure) ∨
      outcome = some ⟨caller, next.generation, .error failure⟩ := by
  cases progress with
  | same => exact .inl told
  | arrives backend absent => simp at told
  | learns attends => simp at told
  | begins attends => simp at told
  | waits attends => simp at told
  | continues detects => simp at told
  | ends detects own =>
      simp only [Phase.answered.injEq] at told
      exact .inr (told ▸ own)

end Progress

/-! ## What one move does to the values -/

namespace Transition

/-- A detection that ends answers its caller, and fills the cell if it has found something. -/
theorem outcome_spec {ended : Outcome} (transition : Transition sharing move (some ended) after)
    (coherent : Coherent sharing) :
    (after.callers ended.caller).generation = ended.generation ∧
      (after.callers ended.caller).phase = .answered ended.result ∧
      (sharing.cells ended.generation).value = none ∧
      (after.cells ended.generation).value = ended.result.toOption := by
  cases transition with
  | succeeded detects done =>
      exact ⟨by simp, by simp, coherent.unfilled_of_detecting detects, by simp [Except.toOption]⟩
  | gaveUp detects done alone =>
      have unfilled := coherent.unfilled_of_detecting detects
      exact ⟨by simp, by simp, unfilled, by simpa [Except.toOption] using unfilled⟩
  | @handedOver caller reply dialogue failure next line detects done waits =>
      have unfilled := coherent.unfilled_of_detecting detects
      have nextWaits : (sharing.callers next).phase = .waiting :=
        coherent.phase_of_mem_queue (waits ▸ List.mem_cons_self)
      have stays : caller ≠ next := ne_of_phase detects nextWaits (by simp)
      exact ⟨by simp, by simp [stays], unfilled, by simpa [Except.toOption] using unfilled⟩

/-- The value of a cell changes only with the end of a detection for it. -/
theorem value_kept (transition : Transition sharing move outcome after)
    (coherent : Coherent sharing) {generation : Nat}
    (elsewhere : ∀ ended, outcome = some ended → ended.generation ≠ generation) :
    (after.cells generation).value = (sharing.cells generation).value := by
  have keepsOther : ∀ {cell : Cell} {caller : Nat} {shared : Sharing},
      shared.cells = sharing.cells → cell.value = (sharing.cellOf caller).value →
      ((shared.setCell (sharing.callers caller).generation cell).cells generation).value =
        (sharing.cells generation).value := by
    intro cell caller shared cells value
    by_cases here : generation = (sharing.callers caller).generation
    · subst here
      rw [cells_setCell_same]
      exact value
    · simp [here, cells]
  cases transition with
  | arrived backend absent => rfl
  | informed attends filled => rfl
  | began attends unfilled free alone => exact keepsOther rfl unfilled.symm
  | queued attends unfilled busy => exact keepsOther rfl rfl
  | continued detects unfinished => rfl
  | succeeded detects done =>
      have different := elsewhere _ rfl
      simp [different.symm]
  | gaveUp detects done alone => exact keepsOther rfl rfl
  | handedOver detects done waits => exact keepsOther rfl rfl
  | reset =>
      by_cases next : generation = sharing.generation + 1
      · simp [Sharing.reset, next, coherent.untouched]
      · simp [Sharing.reset, next]
  | idle => rfl

end Transition

/-! ## What a run does -/

theorem outcomes_cons (sharing : Sharing) (move : Move) (moves : List Move) :
    sharing.outcomes (move :: moves) =
      (sharing.ending? move).toList ++ (sharing.step move).outcomes moves := rfl

namespace Coherent

/-- A caller that has been answered stays as it is. -/
theorem answered_run (coherent : Coherent sharing) (moves : List Move) {caller : Nat}
    {result : Except Failure Support}
    (answered : (sharing.callers caller).phase = .answered result) :
    (sharing.run moves).callers caller = sharing.callers caller := by
  induction moves generalizing sharing with
  | nil => rfl
  | cons move moves inductionHypothesis =>
      have kept : (sharing.step move).callers caller = sharing.callers caller :=
        ((step_transition sharing move).progress coherent caller).answered_kept answered
      rw [run_cons, inductionHypothesis (coherent.step move) (by rwa [kept]), kept]

/-- A value that a cell holds stays there. -/
theorem value_run (coherent : Coherent sharing) (moves : List Move) {generation : Nat}
    {support : Support} (filled : (sharing.cells generation).value = some support) :
    ((sharing.run moves).cells generation).value = some support := by
  induction moves generalizing sharing with
  | nil => exact filled
  | cons move moves inductionHypothesis =>
      refine inductionHypothesis (coherent.step move) ?_
      rw [(step_transition sharing move).value_kept coherent ?_, filled]
      intro ended ending same
      -- a detection can end only for a cell that is still empty
      have transition := ending ▸ step_transition sharing move
      have unfilled := (transition.outcome_spec coherent).2.2.1
      rw [same, filled] at unfilled
      cases unfilled

/-- A detection that ends in a run answers its caller, which has joined its generation. -/
theorem answered_of_mem_outcomes (coherent : Coherent sharing) (moves : List Move)
    {ended : Outcome} (member : ended ∈ sharing.outcomes moves) :
    ((sharing.run moves).callers ended.caller).phase = .answered ended.result ∧
      ((sharing.run moves).callers ended.caller).generation = ended.generation := by
  induction moves generalizing sharing with
  | nil => cases member
  | cons move moves inductionHypothesis =>
      rw [outcomes_cons, List.mem_append, Option.mem_toList] at member
      rcases member with ending | later
      · have transition := ending ▸ step_transition sharing move
        obtain ⟨joined, answered, -, -⟩ := transition.outcome_spec coherent
        rw [run_cons, (coherent.step move).answered_run moves answered]
        exact ⟨answered, joined⟩
      · exact inductionHypothesis (coherent.step move) later

/-- A caller that is told of a failure in a run has run the detection that failed. -/
theorem mem_outcomes_of_failure (coherent : Coherent sharing) (moves : List Move) {caller : Nat}
    {failure : Failure}
    (untold : (sharing.callers caller).phase ≠ .answered (.error failure))
    (told : ((sharing.run moves).callers caller).phase = .answered (.error failure)) :
    ⟨caller, ((sharing.run moves).callers caller).generation, .error failure⟩ ∈
      sharing.outcomes moves := by
  induction moves generalizing sharing with
  | nil => exact absurd told untold
  | cons move moves inductionHypothesis =>
      rw [outcomes_cons, List.mem_append, Option.mem_toList]
      by_cases now : ((sharing.step move).callers caller).phase = .answered (.error failure)
      · refine .inl ?_
        have progress := (step_transition sharing move).progress coherent caller
        rw [run_cons, (coherent.step move).answered_run moves now]
        exact (progress.failure_own now).resolve_left untold
      · exact .inr (inductionHypothesis (coherent.step move) now told)

/-- A value that a cell comes to hold in a run was found by a detection for that cell. -/
theorem mem_outcomes_of_value (coherent : Coherent sharing) (moves : List Move)
    {generation : Nat} {support : Support}
    (unfilled : (sharing.cells generation).value = none)
    (filled : ((sharing.run moves).cells generation).value = some support) :
    ∃ ended ∈ sharing.outcomes moves,
      ended.generation = generation ∧ ended.result = .ok support := by
  induction moves generalizing sharing with
  | nil => exact absurd (unfilled.symm.trans filled) (by simp)
  | cons move moves inductionHypothesis =>
      by_cases still : ((sharing.step move).cells generation).value = none
      · obtain ⟨ended, member, found⟩ :=
          inductionHypothesis (coherent.step move) still filled
        exact ⟨ended, List.mem_append_right _ member, found⟩
      · -- this move fills the cell, so it brings a detection for the cell to its end
        obtain ⟨ended, ending, here⟩ : ∃ ended, sharing.ending? move = some ended ∧
            ended.generation = generation := by
          refine Classical.byContradiction fun elsewhere => still ?_
          rw [(step_transition sharing move).value_kept coherent, unfilled]
          exact fun ended ending here => elsewhere ⟨ended, ending, here⟩
        have transition := ending ▸ step_transition sharing move
        have value := (transition.outcome_spec coherent).2.2.2
        refine ⟨ended, List.mem_append_left _ (by simp [ending]), here, ?_⟩
        cases result : ended.result with
        | error failure =>
            rw [here, result] at value
            exact absurd value still
        | ok found =>
            rw [here, result] at value
            have final := (coherent.step move).value_run moves value
            rw [run_cons, final] at filled
            exact congrArg Except.ok (Option.some.inj filled)

/-- Once a cell is filled, no detection for it comes to an end. -/
theorem no_outcome_of_filled (coherent : Coherent sharing) (moves : List Move)
    {generation : Nat} {support : Support}
    (filled : (sharing.cells generation).value = some support) :
    ∀ ended ∈ sharing.outcomes moves, ended.generation ≠ generation := by
  induction moves generalizing sharing with
  | nil => exact fun ended member => absurd member List.not_mem_nil
  | cons move moves inductionHypothesis =>
      intro ended member
      rw [outcomes_cons, List.mem_append, Option.mem_toList] at member
      rcases member with ending | later
      · rintro rfl
        have transition := ending ▸ step_transition sharing move
        exact absurd ((transition.outcome_spec coherent).2.2.1.symm.trans filled) (by simp)
      · exact inductionHypothesis (coherent.step move)
          (coherent.value_run [move] filled) ended later

/-- No more than one detection for a generation finds something out. -/
theorem success_unique (coherent : Coherent sharing) (moves : List Move) (generation : Nat) :
    ((sharing.outcomes moves).filter fun ended =>
      ended.generation = generation && ended.succeeded).length ≤ 1 := by
  induction moves generalizing sharing with
  | nil => simp [outcomes]
  | cons move moves inductionHypothesis =>
      have later := inductionHypothesis (coherent.step move)
      cases ending : sharing.ending? move with
      | none => simpa [outcomes_cons, ending] using later
      | some ended =>
          by_cases counts : (ended.generation = generation && ended.succeeded) = true
          · have transition := ending ▸ step_transition sharing move
            have value := (transition.outcome_spec coherent).2.2.2
            simp only [Bool.and_eq_true, decide_eq_true_eq] at counts
            obtain ⟨here, success⟩ := counts
            cases result : ended.result with
            | error failure => simp [Outcome.succeeded, result] at success
            | ok support =>
                rw [here, result] at value
                -- the cell is filled from now on
                have none : ((sharing.step move).outcomes moves).filter (fun ended =>
                    ended.generation = generation && ended.succeeded) = [] := by
                  rw [List.filter_eq_nil_iff]
                  intro other member
                  simp [(coherent.step move).no_outcome_of_filled moves value other member]
                simp [outcomes_cons, ending, none, here, success]
          · simpa [outcomes_cons, ending, counts] using later

end Coherent

end Sharing

end TablePartitioning
