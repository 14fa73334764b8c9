import TablePartitioning.Proofs.Capability.Suitability
import TablePartitioning.Proofs.Partitioner.DryRun
import TablePartitioning.Proofs.Partitioner.Session

/-!
# Columns that a server is made to number

Automatic numbering looks at what is remembered of a server and never at the server.  As only a
detection fills a cache that starts empty, and a detection names no dialect of another kind of
servers, the statements are the same whatever has been asked before; only a cache that has learned
of another kind of servers makes a difference.
-/

namespace TablePartitioning

/-- What is said is a statement to execute, or an event. -/
def Utterance.IsExecution : Utterance → Prop
  | .execute _ _ => True
  | .note _ => True
  | _ => False

namespace Partitioner

variable {State : Type}

theorem execute_saysOnly (sql : String) : (execute sql).SaysOnly Utterance.IsExecution := by
  refine ⟨trivial, fun answer => ⟨trivial, ?_⟩⟩
  cases answer <;> trivial

theorem executeAll_saysOnly (statements : List String) :
    (executeAll statements).SaysOnly Utterance.IsExecution := by
  induction statements with
  | nil => trivial
  | cons sql rest inductionHypothesis =>
      apply (execute_saysOnly sql).bind
      intro result
      cases result with
      | ok done => exact inductionHypothesis
      | error failure => trivial

/-! ## The strategy that is chosen -/

theorem strategyFor_of_unnamed {cache : Cache}
    (unnamed : ∀ support, cache.known = some support → support.dialect? = none)
    (backend : Backend) : strategyFor backend cache = backend.strategy := by
  have unrecorded : cache.peek.dialect = none := by
    rw [Cache.peek]
    cases known : cache.known with
    | none => rfl
    | some support => exact unnamed support known
  rw [strategyFor, unrecorded]

/-- A cache that suits a kind of servers leaves them their own strategy. -/
theorem strategyFor_of_suits {cache : Cache} {backend : Backend} (suits : cache.Suits backend) :
    strategyFor backend cache = backend.strategy := by
  cases known : cache.known with
  | none => exact strategyFor_of_unnamed (by simp [known]) backend
  | some support =>
      cases named : support.dialect? with
      | none => exact strategyFor_of_unnamed (by simp [known, named]) backend
      | some dialect =>
          rw [strategyFor_of_named known named]
          exact suits support known dialect named

/-! ## What is said to a server -/

/-- What is held to number a column by a strategy, where a cache was found. -/
structure Numbers (strategy : Strategy) (table : TableName) (field columnType : String)
    (cache : Cache) (held : Held (Except Failure Answer × Cache) State) : Prop where
  /-- The statements of the strategy are sent in order, all of them or up to one that fails. -/
  sent : Sent (strategy.autoIncrement table field columnType) held.executions
    (held.result.1.map fun _ => ())
  asksNothing : ∀ utterance ∈ held.transcript, utterance.IsExecution
  keeps : held.result.2 = cache

theorem forceAutoIncrement_numbers (currentYear : Int32) (backend : Backend) (cache : Cache)
    (table : TableName) (field columnType : String) (server : Server State) (state : State) :
    Numbers (strategyFor backend cache) table field columnType cache
      (((Operation.forceAutoIncrement table field columnType).dialogue currentYear backend
        cache).run server state) := by
  have sent := executeAll_sent server
    ((strategyFor backend cache).autoIncrement table field columnType) state
  have quiet := (executeAll_saysOnly
    ((strategyFor backend cache).autoIncrement table field columnType)).run server state
  rw [Operation.dialogue, Operation.answering_run, Operation.keeping_run, forceAutoIncrement,
    Dialogue.run_note]
  generalize (executeAll ((strategyFor backend cache).autoIncrement table field columnType)).run
    server state = held at sent quiet ⊢
  constructor
  case sent =>
    rcases held with ⟨failure | ⟨⟩, later, said⟩
    · exact sent
    · exact sent
  case asksNothing => exact List.forall_mem_cons.mpr ⟨trivial, quiet⟩
  case keeps => rfl

end Partitioner

/-! ## Numbering in a session -/

namespace Session

variable {State : Type}

/-- Whatever column a server of a kind is made to number, it is numbered by a strategy. -/
def NumbersBy (session : Session State) (backend : Backend) (strategy : Strategy) : Prop :=
  ∀ (currentYear : Int32) (server : Server State) (table : TableName)
    (field columnType : String),
    Partitioner.Numbers strategy table field columnType session.cache
      (session.held
        ⟨currentYear, backend, server, .forceAutoIncrement table field columnType⟩)

theorem numbersBy_strategyFor (session : Session State) (backend : Backend) :
    session.NumbersBy backend (Partitioner.strategyFor backend session.cache) := by
  intro currentYear server table field columnType
  exact Partitioner.forceAutoIncrement_numbers currentYear backend session.cache table field
    columnType server session.state

theorem numbersBy_of_suits {session : Session State} {backend : Backend}
    (suits : session.cache.Suits backend) : session.NumbersBy backend backend.strategy := by
  rw [← Partitioner.strategyFor_of_suits suits]
  exact session.numbersBy_strategyFor backend

/-- What turns with servers of one kind leave in a cache that was empty suits that kind. -/
theorem run_cache_suits {backend : Backend} {start : State} {turns : List (Turn State)}
    (asked : ∀ turn ∈ turns, turn.backend = backend) :
    ((Session.mk .empty start).run turns).cache.Suits backend := by
  intro support known
  rcases (Session.mk .empty start).remembers_of_run turns known with
    ⟨impossible, _⟩ | ⟨before, turn, after, split, _, _, _, detected⟩
  · cases impossible
  · have looked : turn.backend = backend := by
      apply asked
      rw [split]
      exact List.mem_append_right before List.mem_cons_self
    rw [← looked]
    exact (Detection.detect_suits turn.backend).run turn.server _ support detected

/-- How the strategy is chosen by which servers of a kind number columns. -/
structure ChoosesStrategy (State : Type) (backend : Backend) : Prop where
  /-- With a cache of its own, a kind of servers always goes by the same strategy. -/
  own : ∀ (start : State) (turns : List (Turn State)),
    (∀ turn ∈ turns, turn.backend = backend) →
      ((Session.mk .empty start).run turns).NumbersBy backend
        (if backend = .postgres then .partitionOf else .alterTable)
  /-- So it does while others of its kind are still looking at the server or forget about it. -/
  together : ∀ (state : State) (moves : List Sharing.Move),
    (∀ move ∈ moves, move.Asks backend) →
      (Session.mk ((Sharing.ofCache .empty).run moves).cache state).NumbersBy backend
        (if backend = .postgres then .partitionOf else .alterTable)
  /-- A dialect that is recorded decides, be it supported or not. -/
  recorded : ∀ (session : Session State) (support : Support) (dialect : Dialect),
    session.cache.known = some support → support.dialect? = some dialect →
      session.NumbersBy backend dialect.strategy
  unrecorded : ∀ session : Session State,
    (∀ support, session.cache.known = some support → support.dialect? = none) →
      session.NumbersBy backend (if backend = .postgres then .partitionOf else .alterTable)
  /-- A dialect that is taken for granted decides until it is forgotten. -/
  preset : ∀ (start : State) (dialect : Dialect) (turns : List (Turn State)),
    (∀ turn ∈ turns, turn.operation ≠ .reset) →
      ((Session.mk (.ofDialect dialect) start).run turns).NumbersBy backend dialect.strategy

end Session

end TablePartitioning
