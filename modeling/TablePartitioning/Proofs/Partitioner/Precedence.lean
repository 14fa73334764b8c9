import TablePartitioning.Proofs.Capability.Detection
import TablePartitioning.Proofs.Ddl.DefinitionRules
import TablePartitioning.Proofs.Partitioner.Session

/-!
# Which fault of a request comes first

A request can be at fault in its years or in its definitions, and the server behind it can be
unknown, unable to answer, or unable to partition tables.  Years that make no span are refused
before anybody looks at the server.  Definitions and counts are judged by the dialect of the
server; where nothing is remembered of it, a detection goes before, and its faults come first.
-/

namespace TablePartitioning

/-! ## Years that make no span -/

/-- The request is for buckets from a year up to a year that it names. -/
inductive Request.NamesYears (start finish : Int32) : Request → Prop where
  | years (column : String) (timestamp : Bool) :
      NamesYears start finish (.years column start (some finish) timestamp)
  | yearsMonths (column : String) (includeFuture timestamp : Bool) :
      NamesYears start finish (.yearsMonths column start (some finish) includeFuture timestamp)

theorem Request.NamesYears.span?_eq {start finish : Int32} {request : Request}
    (named : request.NamesYears start finish) (currentYear : Int32) :
    request.span? currentYear = some (YearSpan.between start finish) := by
  cases named with
  | years column timestamp => rfl
  | yearsMonths column includeFuture timestamp => rfl

/-- The failure is for the order of two years, or for a year without dates. -/
inductive Failure.OfYears : Failure → Prop where
  | invalidRange (start finish : Int) : OfYears (.invalidRange start finish)
  | invalidDate (year : Int) (month : Nat) : OfYears (.invalidDate year month)

theorem YearSpan.ofYears_of_between {start finish : Int32} {failure : Failure}
    (refused : between start finish = .error failure) : failure.OfYears := by
  unfold between at refused
  split at refused
  · split at refused
    · split at refused
      · cases refused
      · cases refused
        exact .invalidDate _ 1
    · cases refused
      exact .invalidDate _ 1
  · cases refused
    exact .invalidRange _ _

/-! ## Definitions and counts that a dialect refuses -/

/-- The request is for partitions that it defines or counts, which its layout takes over. -/
inductive Request.Divides : Request → Layout → Prop where
  | range (column : String) (definitions : List Definition) (includeFuture : Bool) :
      Divides (.range column definitions includeFuture) (.range column definitions includeFuture)
  | list (column : String) (definitions : List Definition) :
      Divides (.list column definitions) (.list column definitions)
  | hash (column : String) (count : Nat) : Divides (.hash column count) (.hash column count)
  | key (count : Nat) : Divides (.key count) (.key count)

theorem Request.Divides.layout_eq {request : Request} {layout : Layout}
    (divides : request.Divides layout) (currentYear : Int32) :
    request.layout currentYear = .ok layout := by
  cases divides with
  | range column definitions includeFuture => rfl
  | list column definitions => rfl
  | hash column count => rfl
  | key count => rfl

/-- What a strategy refuses a request for, whoever the server is. -/
inductive Request.AtFault : Strategy → Request → Failure → Prop where
  | range {strategy : Strategy} {column : String} {definitions : List Definition}
      {includeFuture : Bool} {fault : DefinitionFault}
      (refused : Definition.Refused .range includeFuture definitions fault) :
      AtFault strategy (.range column definitions includeFuture) (.invalidDefinition fault)
  | list {strategy : Strategy} {column : String} {definitions : List Definition}
      {fault : DefinitionFault} (refused : Definition.Refused .list false definitions fault) :
      AtFault strategy (.list column definitions) (.invalidDefinition fault)
  | hash {strategy : Strategy} {column : String} :
      AtFault strategy (.hash column 0) (.invalidDefinition .zeroCount)
  | keyCount : AtFault .alterTable (.key 0) (.invalidDefinition .zeroCount)
  /-- There are no words for keys, whatever their number. -/
  | key {count : Nat} :
      AtFault .partitionOf (.key count) (.inexpressible "KEY" .postgresDeclarative)

/-- What a request can fail for, by what was found out of the server: a statement that is refused,
the server, and only for a server that partitions tables the request itself. -/
inductive Request.FailsFor (request : Request) (found : Except Failure Support) :
    Failure → Prop where
  | statement (sql : String) (cause : DbError) : FailsFor request found (.statement sql cause)
  | unsupported (candidate : Option Dialect) (unsupported : found = .ok (.unsupported candidate)) :
      FailsFor request found .unsupported
  | atFault {failure : Failure} (dialect : Dialect) (supported : found = .ok (.supported dialect))
      (atFault : request.AtFault dialect.strategy failure) : FailsFor request found failure

namespace Ddl

theorem render_hash_eq_error_iff {strategy : Strategy} {table : TableName} {column : String}
    {count : Nat} {failure : Failure} :
    strategy.render table (.hash column count) = .error failure ↔
      count = 0 ∧ failure = .invalidDefinition .zeroCount := by
  by_cases zero : count = 0
  · cases strategy with
    | alterTable =>
        simp [Strategy.render, AlterTable.ofLayout, AlterTable.counted, zero, Except.map, eq_comm]
    | partitionOf =>
        simp [Strategy.render, PartitionOf.ofLayout, PartitionOf.hash, zero, Except.map, eq_comm]
  · cases strategy with
    | alterTable =>
        simp [Strategy.render, AlterTable.ofLayout, AlterTable.counted, zero, Except.map]
    | partitionOf =>
        simp [Strategy.render, PartitionOf.ofLayout, PartitionOf.hash, zero, Except.map]

theorem render_key_eq_error_iff {table : TableName} {count : Nat} {failure : Failure} :
    Strategy.render .alterTable table (.key count) = .error failure ↔
      count = 0 ∧ failure = .invalidDefinition .zeroCount := by
  by_cases zero : count = 0
  · simp [Strategy.render, AlterTable.ofLayout, AlterTable.counted, zero, Except.map, eq_comm]
  · simp [Strategy.render, AlterTable.ofLayout, AlterTable.counted, zero, Except.map]

end Ddl

theorem Request.Divides.render_eq_error_iff {request : Request} {layout : Layout}
    (divides : request.Divides layout) (strategy : Strategy) (table : TableName)
    (failure : Failure) :
    strategy.render table layout = .error failure ↔ request.AtFault strategy failure := by
  cases divides with
  | range column definitions includeFuture =>
      rw [(Ddl.range_judges table column definitions includeFuture).refuses]
      constructor
      · rintro ⟨fault, rfl, refused⟩
        exact .range refused
      · intro atFault
        cases atFault with
        | range refused => exact ⟨_, rfl, refused⟩
  | list column definitions =>
      rw [(Ddl.list_judges table column definitions).refuses]
      constructor
      · rintro ⟨fault, rfl, refused⟩
        exact .list refused
      · intro atFault
        cases atFault with
        | list refused => exact ⟨_, rfl, refused⟩
  | hash column count =>
      rw [Ddl.render_hash_eq_error_iff]
      constructor
      · rintro ⟨rfl, rfl⟩
        exact .hash
      · intro atFault
        cases atFault with
        | hash => exact ⟨rfl, rfl⟩
  | key count =>
      cases strategy with
      | alterTable =>
          rw [Ddl.render_key_eq_error_iff]
          constructor
          · rintro ⟨rfl, rfl⟩
            exact .keyCount
          · intro atFault
            cases atFault with
            | keyCount => exact ⟨rfl, rfl⟩
      | partitionOf =>
          constructor
          · intro refused
            cases refused
            exact .key
          · intro atFault
            cases atFault with
            | key => rfl

/-! ## The order of the faults -/

theorem Cache.checked_peek_eq_false_iff {cache : Cache} :
    cache.peek.checked = false ↔ cache.known = none := by
  rcases cache with ⟨_ | (dialect | candidate)⟩
  · exact iff_of_true rfl rfl
  · simp [Cache.peek, Capability.ofOption, Capability.ofSupport]
  · simp [Cache.peek, Capability.ofOption, Capability.ofSupport]

namespace Partitioner

variable {State : Type} {server : Server State} {state : State} {currentYear : Int32}
  {backend : Backend} {cache : Cache} {table : TableName} {request : Request}

theorem planned_of_laidOut {layout : Layout} (laidOut : request.layout currentYear = .ok layout)
    (found : Except Failure Support) :
    request.planned currentYear table found =
      (Support.granted found).bind fun dialect => dialect.strategy.render table layout := by
  rw [Request.planned, laidOut]
  cases Support.granted found with
  | error failure => rfl
  | ok dialect => rfl

/-- The look at the server comes before anything that is sent. -/
theorem resolve_isPrefix_create {layout : Layout}
    (laidOut : request.layout currentYear = .ok layout) :
    ((cache.resolve backend).run server state).transcript <+:
      ((create currentYear backend cache table request).run server state).transcript := by
  simp only [create, laidOut]
  rw [Dialogue.run_bind, assertSupport_run]
  exact List.prefix_append _ _

/-- A request without a plan ends with the look at the server, and remembers what that found. -/
theorem create_run_of_unplanned {layout : Layout} {failure : Failure}
    (laidOut : request.layout currentYear = .ok layout)
    (unplanned : request.planned currentYear table
      ((cache.resolve backend).run server state).result.1 = .error failure) :
    (create currentYear backend cache table request).run server state =
      let resolved := (cache.resolve backend).run server state
      ⟨(.error failure, resolved.result.2), resolved.state, resolved.transcript⟩ := by
  rw [planned_of_laidOut laidOut] at unplanned
  simp only [create, laidOut]
  rw [Dialogue.run_bind, assertSupport_run]
  cases granted : Support.granted ((cache.resolve backend).run server state).result.1 with
  | error reason =>
      rw [granted] at unplanned
      cases unplanned
      simp [granted, Held.after]
  | ok dialect =>
      rw [granted] at unplanned
      have refused : dialect.strategy.render table layout = .error failure := unplanned
      simp [granted, refused, Held.after]

/-- What a request comes to after a detection. -/
structure FollowsDetection (request : Request) (cache : Cache)
    (detected : Held (Except Failure Support) State)
    (held : Held (Except Failure Unit × Cache) State) : Prop where
  first : detected.transcript <+: held.transcript
  undetected : ∀ failure, detected.result = .error failure →
    held = ⟨(.error failure, cache), detected.state, detected.transcript⟩
  unsupported : ∀ candidate, detected.result = .ok (.unsupported candidate) →
    held = ⟨(.error .unsupported, ⟨some (.unsupported candidate)⟩), detected.state,
      detected.transcript⟩
  atFault : ∀ dialect failure, detected.result = .ok (.supported dialect) →
    request.AtFault dialect.strategy failure →
      held = ⟨(.error failure, ⟨some (.supported dialect)⟩), detected.state, detected.transcript⟩
  failed : ∀ failure, held.result.1 = .error failure → request.FailsFor detected.result failure

section Undetected

variable {layout : Layout} (divides : request.Divides layout) (unknown : cache.known = none)

include divides unknown

theorem create_run_of_unknown {failure : Failure}
    (unplanned : request.planned currentYear table
      ((Detection.detect backend).run server state).result = .error failure) :
    (create currentYear backend cache table request).run server state =
      ⟨(.error failure, ⟨((Detection.detect backend).run server state).result.toOption⟩),
        ((Detection.detect backend).run server state).state,
        ((Detection.detect backend).run server state).transcript⟩ := by
  have resolved := Cache.resolve_run_of_unknown unknown backend server state
  have laidOut := divides.layout_eq currentYear
  rw [create_run_of_unplanned laidOut (by rw [resolved]; exact unplanned), resolved]

theorem failsFor_of_unknown {failure : Failure}
    (failed : ((create currentYear backend cache table request).run server state).result.1 =
      .error failure) :
    request.FailsFor ((Detection.detect backend).run server state).result failure := by
  have outcome := create_sent server state currentYear backend cache table request
  simp only [Cache.resolve_run_of_unknown unknown] at outcome
  rw [planned_of_laidOut (divides.layout_eq currentYear), failed] at outcome
  rcases detected : ((Detection.detect backend).run server state).result with
    reason | (dialect | candidate)
  · simp only [detected] at outcome
    cases outcome.2
    obtain ⟨sql, cause, rfl⟩ := Detection.detect_failed detected
    exact .statement sql cause
  · rw [detected] at outcome
    cases rendered : dialect.strategy.render table layout with
    | error reason =>
        simp only [Support.granted, Except.bind, rendered] at outcome
        cases outcome.2
        exact .atFault dialect rfl ((divides.render_eq_error_iff _ _ _).mp rendered)
    | ok statements =>
        simp only [Support.granted, Except.bind, rendered] at outcome
        obtain ⟨position, sql, cause, refused, rfl⟩ := outcome.failed
        exact .statement sql cause
  · simp only [detected] at outcome
    cases outcome.2
    exact .unsupported candidate rfl

theorem followsDetection_of_unknown :
    FollowsDetection request cache ((Detection.detect backend).run server state)
      ((create currentYear backend cache table request).run server state) := by
  have laidOut := divides.layout_eq currentYear
  have ends {failure : Failure} (unplanned : request.planned currentYear table
      ((Detection.detect backend).run server state).result = .error failure) :=
    create_run_of_unknown divides unknown unplanned
  constructor
  case first =>
    have looked : ((cache.resolve backend).run server state).transcript <+:
        ((create currentYear backend cache table request).run server state).transcript :=
      resolve_isPrefix_create laidOut
    rw [Cache.resolve_run_of_unknown unknown] at looked
    exact looked
  case undetected =>
    intro failure detected
    have empty : cache = ⟨none⟩ := by
      rw [← unknown]
    rw [ends (by rw [planned_of_laidOut laidOut, detected]; rfl), detected, empty]
    rfl
  case unsupported =>
    intro candidate detected
    rw [ends (by rw [planned_of_laidOut laidOut, detected]; rfl), detected]
    rfl
  case atFault =>
    intro dialect failure detected atFault
    have refused := (divides.render_eq_error_iff dialect.strategy table failure).mpr atFault
    rw [ends (by rw [planned_of_laidOut laidOut, detected]; exact refused), detected]
    rfl
  case failed =>
    intro failure failed
    exact failsFor_of_unknown divides unknown failed

end Undetected

/-- Years that are named and make no span end a request at once, whatever is remembered and
whatever the server is.  What a request defines or counts is only judged after a detection, where
nothing is remembered. -/
theorem create_ordersFaults (server : Server State) (state : State) (currentYear : Int32)
    (backend : Backend) (cache : Cache) (table : TableName) (request : Request) :
    let held := (create currentYear backend cache table request).run server state
    (∀ start finish failure, request.NamesYears start finish →
      YearSpan.between start finish = .error failure →
        failure.OfYears ∧ held = ⟨(.error failure, cache), state, []⟩) ∧
    ∀ layout, request.Divides layout → cache.peek.checked = false →
      FollowsDetection request cache ((Detection.detect backend).run server state) held := by
  constructor
  · intro start finish failure named refused
    have missing : request.span? currentYear = some (.error failure) := by
      rw [named.span?_eq, refused]
    exact ⟨YearSpan.ofYears_of_between refused,
      create_run_of_spanMissing missing backend cache table server state⟩
  · intro layout divides unchecked
    exact followsDetection_of_unknown divides (Cache.checked_peek_eq_false_iff.mp unchecked)

end Partitioner

end TablePartitioning
