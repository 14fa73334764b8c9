import TablePartitioning.Proofs.Partitioner.Sending

/-!
# Sessions of operations

A session is a cache together with the state of the servers behind it, and a turn is one operation
that is asked of a server.  What a gated operation does is said once, by `dialogue_gated`, and what
a turn does to the cache by `next_cache`; what a run of turns remembers follows by induction on the
run.
-/

namespace TablePartitioning

/-- What is remembered, and the state of the servers. -/
structure Session (State : Type) where
  cache : Cache
  state : State

/-- An operation, with the year and the server that it finds. -/
structure Turn (State : Type) where
  currentYear : Int32
  backend : Backend
  server : Server State
  operation : Operation

namespace Session

variable {State : Type}

/-- What the server of a turn is found to be, and what is remembered then. -/
def resolved (session : Session State) (turn : Turn State) :
    Held (Except Failure Support × Cache) State :=
  (session.cache.resolve turn.backend).run turn.server session.state

/-- The dialogue of a turn. -/
def held (session : Session State) (turn : Turn State) :
    Held (Except Failure Answer × Cache) State :=
  (turn.operation.dialogue turn.currentYear turn.backend session.cache).run turn.server
    session.state

/-- The session after a turn. -/
def next (session : Session State) (turn : Turn State) : Session State :=
  ⟨(session.held turn).result.2, (session.held turn).state⟩

/-- The session after some turns. -/
def run (session : Session State) (turns : List (Turn State)) : Session State :=
  turns.foldl next session

end Session

/-- The span of years of a request that names one. -/
def Request.span? (currentYear : Int32) : Request → Option (Except Failure YearSpan)
  | .years _ start finish _ => some (YearSpan.between start (finish.getD currentYear))
  | .yearsMonths _ start finish _ _ => some (YearSpan.between start (finish.getD currentYear))
  | _ => none

/-- Whether an operation names no span of years, or one that exists. -/
def Operation.SpanExists (currentYear : Int32) : Operation → Prop
  | .create _ request => ∀ failure, request.span? currentYear ≠ some (.error failure)
  | _ => True

/-- Whether an operation is only carried out on servers that partition tables. -/
def Operation.isGated : Operation → Bool
  | .assertSupport => true
  | .create _ _ => true
  | .listPartitions _ _ => true
  | _ => false

theorem Request.layout_of_spanExists {request : Request} {currentYear : Int32}
    (spanExists : ∀ failure, request.span? currentYear ≠ some (.error failure)) :
    ∃ layout, request.layout currentYear = .ok layout := by
  cases request with
  | years column start finish timestamp =>
      cases span : YearSpan.between start (finish.getD currentYear) with
      | error failure => exact (spanExists failure (by rw [Request.span?, span])).elim
      | ok span => exact ⟨_, by rw [Request.layout, span]; rfl⟩
  | yearsMonths column start finish includeFuture timestamp =>
      cases span : YearSpan.between start (finish.getD currentYear) with
      | error failure => exact (spanExists failure (by rw [Request.span?, span])).elim
      | ok span => exact ⟨_, by rw [Request.layout, span]; rfl⟩
  | _ => exact ⟨_, rfl⟩

theorem Request.layout_of_spanMissing {request : Request} {currentYear : Int32}
    {failure : Failure} (missing : request.span? currentYear = some (.error failure)) :
    request.layout currentYear = .error failure := by
  cases request with
  | years column start finish timestamp =>
      have refused : YearSpan.between start (finish.getD currentYear) = .error failure :=
        Option.some.inj missing
      rw [Request.layout, refused]
      rfl
  | yearsMonths column start finish includeFuture timestamp =>
      have refused : YearSpan.between start (finish.getD currentYear) = .error failure :=
        Option.some.inj missing
      rw [Request.layout, refused]
      rfl
  | _ => cases missing

/-- A request for years that make no span ends before anything is looked at. -/
theorem Partitioner.create_run_of_spanMissing {State : Type} {request : Request}
    {currentYear : Int32} {failure : Failure}
    (missing : request.span? currentYear = some (.error failure)) (backend : Backend)
    (cache : Cache) (table : TableName) (server : Server State) (state : State) :
    (create currentYear backend cache table request).run server state =
      ⟨(.error failure, cache), state, []⟩ := by
  rw [create, Request.layout_of_spanMissing missing]
  rfl

namespace Operation

variable {State Result : Type}

theorem answering_run (wrap : Result → Answer)
    (dialogue : Dialogue (Except Failure Result × Cache)) (server : Server State)
    (state : State) :
    (answering wrap dialogue).run server state =
      let held := dialogue.run server state
      ⟨(held.result.1.map wrap, held.result.2), held.state, held.transcript⟩ := by
  rw [answering, Dialogue.run_bind]
  simp [Held.after]

theorem keeping_run (cache : Cache) (dialogue : Dialogue (Except Failure Result))
    (server : Server State) (state : State) :
    (keeping cache dialogue).run server state =
      let held := dialogue.run server state
      ⟨(held.result, cache), held.state, held.transcript⟩ := by
  rw [keeping, Dialogue.run_bind]
  simp [Held.after]

/-- What a gated operation does once it knows the dialect of the server. -/
def body (currentYear : Int32) (dialect : Dialect) : Operation → Dialogue (Except Failure Answer)
  | .assertSupport => .done (.ok (.dialect dialect))
  | .listPartitions schema table =>
      (Partitioner.fetch (dialect.strategy.listing schema table) "partition"
        PartitionInfo.ofJson).bind fun result => .done (result.map .partitions)
  | .create table request =>
      match (request.layout currentYear).bind (dialect.strategy.render table) with
      | .error failure => .done (.error failure)
      | .ok statements =>
          (Partitioner.apply request table dialect statements).bind fun result =>
            .done (result.map fun _ => .done)
  | _ => .done (.ok .done)

/-- What is held where the body of an operation follows the look at the server. -/
def bodyAfter (operation : Operation) (currentYear : Int32) (server : Server State)
    (resolved : Held (Except Failure Support × Cache) State) :
    Held (Except Failure Answer × Cache) State :=
  match Support.granted resolved.result.1 with
  | .error failure => ⟨(.error failure, resolved.result.2), resolved.state, resolved.transcript⟩
  | .ok dialect =>
      let held := (operation.body currentYear dialect).run server resolved.state
      ⟨(held.result, resolved.result.2), held.state, resolved.transcript ++ held.transcript⟩

theorem bodyAfter_of_refused {operation : Operation} {currentYear : Int32}
    {server : Server State} {resolved : Held (Except Failure Support × Cache) State}
    {failure : Failure} (refused : Support.granted resolved.result.1 = .error failure) :
    operation.bodyAfter currentYear server resolved =
      ⟨(.error failure, resolved.result.2), resolved.state, resolved.transcript⟩ := by
  rw [bodyAfter, refused]

theorem cache_bodyAfter (operation : Operation) (currentYear : Int32) (server : Server State)
    (resolved : Held (Except Failure Support × Cache) State) :
    (operation.bodyAfter currentYear server resolved).result.2 = resolved.result.2 := by
  unfold bodyAfter
  split
  · rfl
  · rfl

/-- A gated operation goes on with the dialect where the server was found to partition tables, and
ends with the look at the server otherwise; either way it remembers what that look remembered. -/
theorem dialogue_gated {operation : Operation} {currentYear : Int32}
    (gated : operation.isGated = true) (spanExists : operation.SpanExists currentYear)
    (backend : Backend) (cache : Cache) (server : Server State) (state : State) :
    (operation.dialogue currentYear backend cache).run server state =
      operation.bodyAfter currentYear server ((cache.resolve backend).run server state) := by
  unfold bodyAfter
  cases operation with
  | assertSupport =>
      rw [dialogue, answering_run, Partitioner.assertSupport_run]
      cases granted : Support.granted ((cache.resolve backend).run server state).result.1 with
      | error failure => simp [granted, Except.map]
      | ok dialect => simp [granted, body, Except.map]
  | listPartitions schema table =>
      rw [dialogue, answering_run, Partitioner.listPartitions, Dialogue.run_bind,
        Partitioner.assertSupport_run]
      cases granted : Support.granted ((cache.resolve backend).run server state).result.1 with
      | error failure => simp [granted, Except.map]
      | ok dialect => simp [granted, body, Dialogue.run_bind]
  | create table request =>
      obtain ⟨layout, laidOut⟩ := Request.layout_of_spanExists spanExists
      simp only [dialogue, answering_run, Partitioner.create, laidOut]
      rw [Dialogue.run_bind, Partitioner.assertSupport_run]
      cases granted : Support.granted ((cache.resolve backend).run server state).result.1 with
      | error failure => simp [granted, Except.map]
      | ok dialect =>
          cases rendered : dialect.strategy.render table layout with
          | error failure =>
              simp [granted, body, laidOut, rendered, Except.bind, Except.map]
          | ok statements =>
              simp [granted, body, laidOut, rendered, Except.bind, Dialogue.run_bind]
  | havePartitioning => cases gated
  | maintain table operation partitions => cases gated
  | forceAutoIncrement table field columnType => cases gated
  | reset => cases gated

theorem dialogue_of_spanMissing {operation : Operation} {currentYear : Int32}
    (missing : ¬ operation.SpanExists currentYear) (backend : Backend) (cache : Cache)
    (server : Server State) (state : State) :
    ∃ failure, (operation.dialogue currentYear backend cache).run server state =
      ⟨(.error failure, cache), state, []⟩ := by
  cases operation with
  | create table request =>
      obtain ⟨failure, named⟩ := Classical.not_forall.mp missing
      refine ⟨failure, ?_⟩
      rw [dialogue, answering_run,
        Partitioner.create_run_of_spanMissing (Classical.not_not.mp named)]
      rfl
  | _ => exact (missing trivial).elim

end Operation

/-! ## What a turn remembers -/

theorem Cache.known_of_supported {cache : Cache} {dialect : Dialect}
    (supported : cache.peek.supported = true) (named : cache.peek.dialect = some dialect) :
    cache.known = some (.supported dialect) := by
  rw [peek] at supported named
  rcases known : cache.known with _ | (remembered | candidate)
  · rw [known] at supported
    cases supported
  · rw [known] at named
    cases named
    rfl
  · rw [known] at supported
    cases supported

theorem Cache.known_of_unsupported {cache : Cache} (checked : cache.peek.checked = true)
    (unsupported : cache.peek.supported = false) :
    ∃ candidate, cache.known = some (.unsupported candidate) := by
  rw [peek] at checked unsupported
  rcases known : cache.known with _ | (dialect | candidate)
  · rw [known] at checked
    cases checked
  · rw [known] at unsupported
    cases unsupported
  · exact ⟨candidate, rfl⟩

/-- Whether an operation looks at the server, or at what is remembered of it. -/
def Operation.Looks (currentYear : Int32) (operation : Operation) : Prop :=
  operation = .havePartitioning ∨
    operation.isGated = true ∧ operation.SpanExists currentYear

namespace Session

variable {State : Type} (session : Session State) (turn : Turn State)

theorem resolved_of_known {support : Support} (known : session.cache.known = some support) :
    session.resolved turn = ⟨(.ok support, session.cache), session.state, []⟩ := by
  exact Cache.resolve_run_of_known known turn.backend turn.server session.state

theorem resolved_of_unknown (unknown : session.cache.known = none) :
    session.resolved turn =
      let detected := (Detection.detect turn.backend).run turn.server session.state
      ⟨(detected.result, ⟨detected.result.toOption⟩), detected.state, detected.transcript⟩ := by
  exact Cache.resolve_run_of_unknown unknown turn.backend turn.server session.state

theorem resolved_detecting :
    ∀ utterance ∈ (session.resolved turn).transcript, utterance.IsDetection := by
  exact (session.cache.resolve_saysOnly turn.backend).run turn.server session.state

theorem next_cache_of_looks (looks : turn.operation.Looks turn.currentYear) :
    (session.next turn).cache = (session.resolved turn).result.2 := by
  rcases looks with asked | ⟨gated, spanExists⟩
  · rw [next, held, asked, Operation.dialogue, Operation.answering_run]
    rfl
  · rw [next, held, Operation.dialogue_gated gated spanExists, Operation.cache_bodyAfter]
    rfl

theorem next_cache_of_blind (blind : ¬ turn.operation.Looks turn.currentYear)
    (kept : turn.operation ≠ .reset) : (session.next turn).cache = session.cache := by
  rcases turn with ⟨currentYear, backend, server, operation⟩
  cases operation with
  | havePartitioning => exact (blind (.inl rfl)).elim
  | assertSupport => exact (blind (.inr ⟨rfl, trivial⟩)).elim
  | listPartitions schema table => exact (blind (.inr ⟨rfl, trivial⟩)).elim
  | create table request =>
      have missing : ¬ (Operation.create table request).SpanExists currentYear :=
        fun spanExists => blind (.inr ⟨rfl, spanExists⟩)
      obtain ⟨failure, refused⟩ :=
        Operation.dialogue_of_spanMissing missing backend session.cache server session.state
      rw [next, held, refused]
  | maintain table maintenance partitions =>
      rw [next, held, Operation.dialogue, Operation.answering_run, Operation.keeping_run]
  | forceAutoIncrement table field columnType =>
      rw [next, held, Operation.dialogue, Operation.answering_run, Operation.keeping_run]
  | reset => exact (kept rfl).elim

/-- Apart from a reset, only a detection changes what is remembered, where nothing was. -/
theorem next_cache (kept : turn.operation ≠ .reset) :
    (session.next turn).cache = session.cache ∨
      session.cache.known = none ∧ turn.operation.Looks turn.currentYear ∧
        ∃ support,
          ((Detection.detect turn.backend).run turn.server session.state).result = .ok support ∧
            (session.next turn).cache.known = some support := by
  by_cases looks : turn.operation.Looks turn.currentYear
  · rw [session.next_cache_of_looks turn looks]
    cases known : session.cache.known with
    | some support =>
        rw [session.resolved_of_known turn known]
        exact .inl rfl
    | none =>
        rw [session.resolved_of_unknown turn known]
        cases detected : ((Detection.detect turn.backend).run turn.server session.state).result with
        | error failure =>
            left
            simp only [detected, Except.toOption]
            rw [← known]
        | ok support =>
            right
            exact ⟨rfl, looks, support, rfl, by simp only [detected, Except.toOption]⟩
  · exact .inl (session.next_cache_of_blind turn looks kept)

theorem next_cache_of_reset (reset : turn.operation = .reset) :
    (session.next turn).cache = .empty := by
  rw [next, held, reset]
  rfl

theorem next_cache_of_known {support : Support} (known : session.cache.known = some support)
    (kept : turn.operation ≠ .reset) : (session.next turn).cache = session.cache := by
  rcases session.next_cache turn kept with same | ⟨unknown, _⟩
  · exact same
  · rw [known] at unknown
    cases unknown

/-! ## What a run of turns remembers -/

/-- How a session comes to remember something: it did so from the start, or a detection found it
out where nothing was remembered, and nobody has reset the session since. -/
def Remembers (session : Session State) (turns : List (Turn State)) (support : Support) : Prop :=
  session.cache.known = some support ∧ (∀ turn ∈ turns, turn.operation ≠ .reset) ∨
    ∃ before turn after, turns = before ++ turn :: after ∧
      (∀ later ∈ after, later.operation ≠ .reset) ∧
      (session.run before).cache.known = none ∧ turn.operation.Looks turn.currentYear ∧
      ((Detection.detect turn.backend).run turn.server (session.run before).state).result =
        .ok support

theorem run_cache_of_known {support : Support} (turns : List (Turn State))
    (known : session.cache.known = some support)
    (kept : ∀ turn ∈ turns, turn.operation ≠ .reset) :
    (session.run turns).cache = session.cache := by
  induction turns generalizing session with
  | nil => rfl
  | cons turn rest inductionHypothesis =>
      have same := session.next_cache_of_known turn known (kept turn List.mem_cons_self)
      have later : ((session.next turn).run rest).cache = (session.next turn).cache :=
        inductionHypothesis (session.next turn) (by rw [same]; exact known)
          fun next member => kept next (List.mem_cons_of_mem turn member)
      exact later.trans same

theorem remembers_of_run {support : Support} (turns : List (Turn State))
    (known : (session.run turns).cache.known = some support) :
    session.Remembers turns support := by
  induction turns generalizing session with
  | nil => exact .inl ⟨known, by simp⟩
  | cons turn rest inductionHypothesis =>
      rcases inductionHypothesis (session.next turn) known with
        ⟨early, kept⟩ | ⟨before, looking, after, split, kept, unknown, looks, detected⟩
      · by_cases reset : turn.operation = .reset
        · rw [session.next_cache_of_reset turn reset] at early
          cases early
        · rcases session.next_cache turn reset with
            same | ⟨unknown, looks, found, detected, filled⟩
          · rw [same] at early
            exact .inl ⟨early, by simpa [reset] using kept⟩
          · rw [early] at filled
            cases filled
            exact .inr ⟨[], turn, rest, rfl, kept, unknown, looks, detected⟩
      · exact .inr ⟨turn :: before, looking, after, by rw [split, List.cons_append], kept,
          unknown, looks, detected⟩

/-! ## What a session guards -/

/-- What every turn of a session keeps to. -/
structure Guarded (session : Session State) : Prop where
  /-- What is remembered has been looked at, and where it is support, it names a dialect. -/
  checked : session.cache.known ≠ none →
    session.cache.peek.checked = true ∧
      (session.cache.peek.supported = true → session.cache.peek.dialect.isSome = true)
  agreed : ∀ currentYear backend server,
    (∃ dialect, (session.held ⟨currentYear, backend, server, .assertSupport⟩).result.1 =
      .ok (.dialect dialect)) ↔
    (session.held ⟨currentYear, backend, server, .havePartitioning⟩).result.1 =
      .ok (.supported true)
  /-- Where support is remembered, both questions are answered from it and no server is asked. -/
  granted : ∀ dialect, session.cache.peek.supported = true →
    session.cache.peek.dialect = some dialect → ∀ currentYear backend server,
      session.held ⟨currentYear, backend, server, .havePartitioning⟩ =
          ⟨(.ok (.supported true), session.cache), session.state, []⟩ ∧
        session.held ⟨currentYear, backend, server, .assertSupport⟩ =
          ⟨(.ok (.dialect dialect), session.cache), session.state, []⟩
  /-- Where its absence is remembered, one answers no and the other fails, with or without the name
  of a dialect. -/
  denied : session.cache.peek.checked = true → session.cache.peek.supported = false →
    ∀ currentYear backend server,
      session.held ⟨currentYear, backend, server, .havePartitioning⟩ =
          ⟨(.ok (.supported false), session.cache), session.state, []⟩ ∧
        session.held ⟨currentYear, backend, server, .assertSupport⟩ =
          ⟨(.error .unsupported, session.cache), session.state, []⟩
  emptied : ∀ turn : Turn State, turn.operation = .reset → (session.next turn).cache = .empty
  filled : ∀ turn : Turn State, turn.operation ≠ .reset →
    (session.next turn).cache = session.cache ∨
      session.cache.known = none ∧ turn.operation.Looks turn.currentYear ∧
        ∃ support,
          ((Detection.detect turn.backend).run turn.server session.state).result = .ok support ∧
            (session.next turn).cache.known = some support
  /-- What is remembered is settled by the look at the server, whatever comes of the turn. -/
  settled : ∀ turn : Turn State, turn.operation.Looks turn.currentYear →
    (session.next turn).cache = (session.resolved turn).result.2
  refused : ∀ turn : Turn State, session.cache.peek.checked = true →
    session.cache.peek.supported = false → turn.operation.isGated = true →
    turn.operation.SpanExists turn.currentYear →
      session.held turn = ⟨(.error .unsupported, session.cache), session.state, []⟩
  /-- Only a server that was found to partition tables hears of anything but the detection. -/
  silent : ∀ turn : Turn State, turn.operation.isGated = true →
    (∃ dialect, (session.resolved turn).result.1 = .ok (.supported dialect)) ∨
      ∀ utterance ∈ (session.held turn).transcript, utterance.IsDetection

theorem known_checked (known : session.cache.known ≠ none) :
    session.cache.peek.checked = true ∧
      (session.cache.peek.supported = true → session.cache.peek.dialect.isSome = true) := by
  rw [Cache.peek]
  rcases remembered : session.cache.known with _ | (dialect | candidate)
  · exact (known remembered).elim
  · exact ⟨rfl, fun _ => rfl⟩
  · exact ⟨rfl, fun impossible => by cases impossible⟩

theorem assertSupport_agrees (currentYear : Int32) (backend : Backend) (server : Server State) :
    (∃ dialect, (session.held ⟨currentYear, backend, server, .assertSupport⟩).result.1 =
      .ok (.dialect dialect)) ↔
    (session.held ⟨currentYear, backend, server, .havePartitioning⟩).result.1 =
      .ok (.supported true) := by
  simp only [held, Operation.dialogue, Operation.answering_run, Partitioner.assertSupport_run]
  rcases ((session.cache.resolve backend).run server session.state).result.1 with
    failure | (dialect | candidate)
  · simp [Support.granted, Except.map]
  · simp [Support.granted, Except.map, Support.isSupported]
  · simp [Support.granted, Except.map, Support.isSupported]

theorem held_havePartitioning_of_known {support : Support}
    (known : session.cache.known = some support) (currentYear : Int32) (backend : Backend)
    (server : Server State) :
    session.held ⟨currentYear, backend, server, .havePartitioning⟩ =
      ⟨(.ok (.supported support.isSupported), session.cache), session.state, []⟩ := by
  rw [held, Operation.dialogue, Operation.answering_run, Cache.resolve_run_of_known known]
  rfl

theorem held_assertSupport_of_known {support : Support}
    (known : session.cache.known = some support) (currentYear : Int32) (backend : Backend)
    (server : Server State) :
    session.held ⟨currentYear, backend, server, .assertSupport⟩ =
      ⟨((Support.granted (.ok support)).map .dialect, session.cache), session.state, []⟩ := by
  rw [held, Operation.dialogue, Operation.answering_run, Partitioner.assertSupport_run,
    Cache.resolve_run_of_known known]

theorem held_of_supported (dialect : Dialect) (supported : session.cache.peek.supported = true)
    (named : session.cache.peek.dialect = some dialect) (currentYear : Int32) (backend : Backend)
    (server : Server State) :
    session.held ⟨currentYear, backend, server, .havePartitioning⟩ =
        ⟨(.ok (.supported true), session.cache), session.state, []⟩ ∧
      session.held ⟨currentYear, backend, server, .assertSupport⟩ =
        ⟨(.ok (.dialect dialect), session.cache), session.state, []⟩ := by
  have known := Cache.known_of_supported supported named
  exact ⟨session.held_havePartitioning_of_known known currentYear backend server,
    session.held_assertSupport_of_known known currentYear backend server⟩

theorem held_of_unsupported (checked : session.cache.peek.checked = true)
    (unsupported : session.cache.peek.supported = false) (currentYear : Int32)
    (backend : Backend) (server : Server State) :
    session.held ⟨currentYear, backend, server, .havePartitioning⟩ =
        ⟨(.ok (.supported false), session.cache), session.state, []⟩ ∧
      session.held ⟨currentYear, backend, server, .assertSupport⟩ =
        ⟨(.error .unsupported, session.cache), session.state, []⟩ := by
  obtain ⟨candidate, known⟩ := Cache.known_of_unsupported checked unsupported
  exact ⟨session.held_havePartitioning_of_known known currentYear backend server,
    session.held_assertSupport_of_known known currentYear backend server⟩

theorem held_gated_of_unsupported (checked : session.cache.peek.checked = true)
    (unsupported : session.cache.peek.supported = false)
    (gated : turn.operation.isGated = true)
    (spanExists : turn.operation.SpanExists turn.currentYear) :
    session.held turn = ⟨(.error .unsupported, session.cache), session.state, []⟩ := by
  obtain ⟨candidate, known⟩ := Cache.known_of_unsupported checked unsupported
  rw [held, Operation.dialogue_gated gated spanExists, Cache.resolve_run_of_known known]
  rfl

theorem held_detecting (gated : turn.operation.isGated = true) :
    (∃ dialect, (session.resolved turn).result.1 = .ok (.supported dialect)) ∨
      ∀ utterance ∈ (session.held turn).transcript, utterance.IsDetection := by
  by_cases spanExists : turn.operation.SpanExists turn.currentYear
  · have bounded := session.resolved_detecting turn
    cases granted : Support.granted (session.resolved turn).result.1 with
    | ok dialect => exact .inl ⟨dialect, Support.granted_eq_ok_iff.mp granted⟩
    | error failure =>
        right
        rw [resolved] at granted bounded
        rw [held, Operation.dialogue_gated gated spanExists,
          Operation.bodyAfter_of_refused granted]
        exact bounded
  · obtain ⟨failure, refused⟩ := Operation.dialogue_of_spanMissing spanExists turn.backend
      session.cache turn.server session.state
    right
    rw [held, refused]
    intro utterance impossible
    cases impossible

/-- Every session that is reached by some turns guards its servers, and what it remembers comes
from its start or from a detection and stays until a reset. -/
theorem run_guarded (start : Session State) (turns : List (Turn State)) :
    (start.run turns).Guarded ∧
      (∀ support, (start.run turns).cache.known = some support →
        start.Remembers turns support) ∧
      ∀ support, start.cache.known = some support →
        (∀ turn ∈ turns, turn.operation ≠ .reset) → (start.run turns).cache = start.cache := by
  refine ⟨?_, ?_, ?_⟩
  · exact {
      checked := (start.run turns).known_checked
      agreed := (start.run turns).assertSupport_agrees
      granted := (start.run turns).held_of_supported
      denied := (start.run turns).held_of_unsupported
      emptied := (start.run turns).next_cache_of_reset
      filled := (start.run turns).next_cache
      settled := (start.run turns).next_cache_of_looks
      refused := (start.run turns).held_gated_of_unsupported
      silent := (start.run turns).held_detecting }
  · intro support known
    exact start.remembers_of_run turns known
  · intro support known kept
    exact start.run_cache_of_known turns known kept

end Session

end TablePartitioning
