import TablePartitioning.Ddl.Strategy
import TablePartitioning.Proofs.Dialogue.Transcript
import TablePartitioning.Proofs.Sharing.Coherence

/-!
# Servers are found to be of their own kind

A detection may succeed, fail, or find no support and still name the dialect that the server would
need.  Whatever it names belongs to the kind of the server that it looked at: `Suits` is the law of
one finding, and `Suited` the invariant of a cache that callers of one kind share, by one case for
each transition.
-/

namespace TablePartitioning

/-- What was found out names a dialect, if any, whose statements are written as they are for a kind
of servers. -/
def Support.Suits (support : Support) (backend : Backend) : Prop :=
  ∀ dialect, support.dialect? = some dialect → dialect.strategy = backend.strategy

/-- Where a detection has found something out, it suits a kind of servers. -/
def Support.FoundFor (backend : Backend) (found : Except Failure Support) : Prop :=
  ∀ support, found = .ok support → support.Suits backend

/-- What is remembered suits a kind of servers. -/
def Cache.Suits (cache : Cache) (backend : Backend) : Prop :=
  ∀ support, cache.known = some support → support.Suits backend

theorem Cache.empty_suits (backend : Backend) : Cache.empty.Suits backend := by
  intro support impossible
  cases impossible

namespace Support

theorem suits_of_named {support : Support} {dialect : Dialect} {backend : Backend}
    (named : support.dialect? = some dialect) (same : dialect.strategy = backend.strategy) :
    support.Suits backend := by
  intro other also
  rw [named] at also
  cases also
  exact same

theorem suits_nothing (backend : Backend) : (Support.unsupported none).Suits backend := by
  intro dialect named
  cases named

theorem foundFor_error (backend : Backend) (failure : Failure) :
    FoundFor backend (.error failure) := by
  intro support impossible
  cases impossible

theorem Suits.foundFor {backend : Backend} {support : Support} (suits : support.Suits backend) :
    FoundFor backend (.ok support) := by
  intro other same
  cases same
  exact suits

end Support

/-! ## One detection -/

namespace Detection

open Dialogue Support

variable {backend : Backend}

theorem conclude_suits {support : Support} (version : String) (suits : support.Suits backend) :
    (conclude version support).EndsWith (FoundFor backend) := by
  exact suits.foundFor

theorem ask_suits {judge : List Json → Support} (version sql : String)
    (suits : ∀ rows, (judge rows).Suits backend) :
    (ask version sql judge).EndsWith (FoundFor backend) := by
  intro answer
  cases answer with
  | error cause => exact foundFor_error backend _
  | ok rows => exact conclude_suits version (suits rows)

theorem judgePlugins_suits (rows : List Json) : (judgePlugins rows).Suits .mysql := by
  unfold judgePlugins
  split
  · exact suits_of_named rfl rfl
  · exact suits_of_named rfl rfl

theorem judgeVariables_suits (rows : List Json) : (judgeVariables rows).Suits .mysql := by
  unfold judgeVariables
  split
  · exact suits_of_named rfl rfl
  · exact suits_of_named rfl rfl

theorem byVersion_suits (text : String) : (byVersion text).EndsWith (FoundFor .mysql) := by
  have native : (Support.supported .mysqlNative).Suits .mysql := suits_of_named rfl rfl
  unfold byVersion
  split
  · exact (suits_nothing .mysql).foundFor
  · split
    · exact conclude_suits text native
    · split
      · exact ask_suits text pluginsSql judgePlugins_suits
      · split
        · exact ask_suits text variableSql judgeVariables_suits
        · exact conclude_suits text (suits_nothing .mysql)

/-- A detection names no dialect of another kind of servers, whatever it is answered. -/
theorem detect_suits (backend : Backend) : (detect backend).EndsWith (FoundFor backend) := by
  cases backend with
  | postgres => exact (suits_of_named rfl rfl).foundFor
  | sqlite => exact (suits_nothing .sqlite).foundFor
  | mysql =>
      intro answer
      cases answer with
      | error cause => exact foundFor_error .mysql _
      | ok text => exact byVersion_suits text

end Detection

theorem Dialogue.EndsWith.answer {kind : Result → Prop} {dialogue : Dialogue Result}
    (bounded : dialogue.EndsWith kind) (reply : Reply) :
    (dialogue.answer reply).EndsWith kind := by
  cases dialogue with
  | done result => exact bounded
  | version next => exact bounded reply.version
  | query sql next => exact bounded reply.rows
  | execute sql next => exact bounded reply.execution
  | note event next => exact bounded

/-! ## A cache that callers of one kind share -/

/-- What a caller comes to, where it stands. -/
def Phase.Suits (phase : Phase) (backend : Backend) : Prop :=
  match phase with
  | .detecting rest => rest.EndsWith (Support.FoundFor backend)
  | _ => True

/-- Whoever arrives in a move arrives with a kind of servers. -/
def Sharing.Move.Asks (move : Sharing.Move) (backend : Backend) : Prop :=
  match move with
  | .arrive _ other => other = backend
  | _ => True

namespace Sharing

variable {backend : Backend} {sharing after : Sharing} {caller : Nat}

/-- A sharing in which only servers of one kind are looked at. -/
structure Suited (backend : Backend) (sharing : Sharing) : Prop where
  own : ∀ caller, (sharing.callers caller).phase ≠ .absent →
    (sharing.callers caller).backend = backend
  cells : ∀ generation support, (sharing.cells generation).value = some support →
    support.Suits backend
  phases : ∀ caller, (sharing.callers caller).phase.Suits backend

namespace Suited

theorem arrive (suited : Suited backend sharing) (caller generation : Nat) :
    Suited backend
      { sharing with
        callers := replace sharing.callers caller ⟨backend, generation, .arrived⟩ } where
  own := by
    intro other present
    by_cases same : other = caller
    · simp [same]
    · simp only [replace_other _ _ _ _ same] at present ⊢
      exact suited.own other present
  cells := suited.cells
  phases := by
    intro other
    by_cases same : other = caller
    · simp only [same, replace_same]
      trivial
    · simp only [replace_other _ _ _ _ same]
      exact suited.phases other

theorem enter {phase : Phase} (suited : Suited backend sharing)
    (present : (sharing.callers caller).phase ≠ .absent) (suits : phase.Suits backend) :
    Suited backend (sharing.enter caller phase) where
  own := by
    intro other arrived
    rw [backend_enter]
    by_cases same : other = caller
    · rw [same]
      exact suited.own caller present
    · rw [callers_enter_other _ _ _ _ same] at arrived
      exact suited.own other arrived
  cells := suited.cells
  phases := by
    intro other
    by_cases same : other = caller
    · rw [same, phase_enter_same]
      exact suits
    · rw [callers_enter_other _ _ _ _ same]
      exact suited.phases other

theorem setCell {cell : Cell} (suited : Suited backend sharing) (generation : Nat)
    (suits : ∀ support, cell.value = some support → support.Suits backend) :
    Suited backend (sharing.setCell generation cell) where
  own := suited.own
  cells := by
    intro other support filled
    by_cases same : other = generation
    · rw [same, cells_setCell_same] at filled
      exact suits support filled
    · rw [cells_setCell_other _ _ _ _ same] at filled
      exact suited.cells other support filled
  phases := suited.phases

/-- A caller that starts to detect looks at a server of the one kind. -/
theorem detect (suited : Suited backend sharing)
    (present : (sharing.callers caller).phase ≠ .absent) :
    (Phase.detecting (Detection.detect (sharing.callers caller).backend)).Suits backend := by
  rw [suited.own caller present]
  exact Detection.detect_suits backend

theorem reset (suited : Suited backend sharing) : Suited backend sharing.reset := by
  have emptied : Suited backend (sharing.setCell (sharing.generation + 1) Cell.empty) := by
    apply suited.setCell
    intro support impossible
    cases impossible
  exact { own := emptied.own, cells := emptied.cells, phases := emptied.phases }

theorem transition {move : Move} {outcome : Option Outcome} (suited : Suited backend sharing)
    (coherent : Coherent sharing) (asks : move.Asks backend)
    (transition : Transition sharing move outcome after) : Suited backend after := by
  cases transition with
  | @arrived caller other absent =>
      cases asks
      exact suited.arrive caller sharing.generation
  | @informed caller support attends filled =>
      have present : (sharing.callers caller).phase ≠ .absent := by
        rcases attends with arrived | waits <;> simp [*]
      exact suited.enter present trivial
  | @began caller attends unfilled free alone =>
      have present : (sharing.callers caller).phase ≠ .absent := by simp [attends]
      have claimed : Suited backend
          (sharing.setCell (sharing.callers caller).generation ⟨none, some caller, []⟩) := by
        apply suited.setCell
        intro support impossible
        cases impossible
      exact claimed.enter present (suited.detect present)
  | @queued caller attends unfilled busy =>
      have present : (sharing.callers caller).phase ≠ .absent := by simp [attends]
      have lined : Suited backend
          (sharing.setCell (sharing.callers caller).generation
            { sharing.cellOf caller with
              queue := (sharing.cellOf caller).queue ++ [caller] }) :=
        suited.setCell _ (suited.cells _)
      exact lined.enter present trivial
  | @continued caller reply dialogue detects unfinished =>
      have bounded := suited.phases caller
      rw [detects] at bounded
      exact suited.enter (by simp [detects]) (bounded.answer reply)
  | @succeeded caller reply dialogue support detects ended =>
      have bounded := suited.phases caller
      rw [detects] at bounded
      have found := bounded.answer reply
      rw [ended] at found
      apply Suited.setCell
      · exact suited.enter (by simp [detects]) trivial
      · intro other same
        cases same
        exact found support rfl
  | @gaveUp caller reply dialogue failure detects ended alone =>
      apply Suited.setCell
      · exact suited.enter (by simp [detects]) trivial
      · exact suited.cells _
  | @handedOver caller reply dialogue failure next line detects ended waits =>
      have queued : next ∈ (sharing.cellOf caller).queue := by
        rw [waits]
        exact List.mem_cons_self
      have waiting : (sharing.callers next).phase = .waiting := coherent.phase_of_mem_queue queued
      have different : next ≠ caller := ne_of_phase waiting detects (by simp)
      have present : (sharing.callers next).phase ≠ .absent := by simp [waiting]
      have told : Suited backend (sharing.enter caller (.answered (.error failure))) :=
        suited.enter (by simp [detects]) trivial
      have handed : Suited backend
          ((sharing.enter caller (.answered (.error failure))).setCell
            (sharing.callers caller).generation
            { sharing.cellOf caller with detector := some next, queue := line }) :=
        told.setCell _ (suited.cells _)
      apply handed.enter
      · rwa [callers_setCell, callers_enter_other _ _ _ _ different]
      · exact suited.detect present
  | reset => exact suited.reset
  | idle => exact suited

/-- A cache that nobody uses yet is suited where what it takes for granted is. -/
theorem ofCache {cache : Cache} (suits : cache.Suits backend) :
    Suited backend (ofCache cache) where
  own := fun _ present => absurd rfl present
  cells := by
    intro generation support filled
    by_cases first : generation = 0
    · subst first
      exact suits support filled
    · simp [Sharing.ofCache, first, Cell.empty] at filled
  phases := fun _ => trivial

/-- Callers of one kind leave only findings that suit it. -/
theorem run (suited : Suited backend sharing) (coherent : Coherent sharing) (moves : List Move)
    (asks : ∀ move ∈ moves, move.Asks backend) : Suited backend (sharing.run moves) := by
  induction moves generalizing sharing with
  | nil => exact suited
  | cons move rest inductionHypothesis =>
      rcases List.forall_mem_cons.mp asks with ⟨first, later⟩
      exact inductionHypothesis (suited.transition coherent first (step_transition sharing move))
        (coherent.step move) later

theorem cache (suited : Suited backend sharing) : sharing.cache.Suits backend := by
  exact suited.cells sharing.generation

end Suited

/-- A cache that starts empty and is shared by servers of one kind suits that kind all along. -/
theorem run_cache_suits (moves : List Move) (asks : ∀ move ∈ moves, move.Asks backend) :
    ((ofCache .empty).run moves).cache.Suits backend := by
  have suited : Suited backend (ofCache .empty) := .ofCache (Cache.empty_suits backend)
  exact (suited.run (.ofCache .empty) moves asks).cache

end Sharing

end TablePartitioning
