import Mathlib.Data.List.Forall2
import TablePartitioning.Proofs.Capability.Detection
import TablePartitioning.Proofs.Partitioner.Session

/-!
# Answers that are read whole

The rows that a server answers with are read one by one, up to one that is not of the expected form.
`ReadsWhole` says what comes of them: every row in its place, or nothing at all for the sake of the
first that cannot be read.  Maintenance makes a single call for its partitions and is blind to what
is remembered of the server; the listing of partitions makes one more call than the look at the
server.
-/

namespace TablePartitioning

namespace Partitioner

variable {Row State : Type} {kind sql : String} {decode : Json → Except DecodeError Row}
  {rows : List Json} {server : Server State} {state : State}

/-! ## Rows one by one -/

/-- Rows are read to their values in their order, or nothing is read for the first that fails. -/
structure ReadsWhole (kind : String) (decode : Json → Except DecodeError Row) (rows : List Json)
    (result : Except Failure (List Row)) : Prop where
  whole : ∀ values, result = .ok values ↔
    List.Forall₂ (fun row value => decode row = .ok value) rows values
  nothing : ∀ failure, result = .error failure ↔
    ∃ before row after cause, rows = before ++ row :: after ∧
      (∀ earlier ∈ before, ∃ value, decode earlier = .ok value) ∧
      decode row = .error cause ∧ failure = .row kind cause

theorem decodeRows_cons_of_ok {row : Json} {value : Row} (read : decode row = .ok value) :
    decodeRows kind decode (row :: rows) = (decodeRows kind decode rows).map (value :: ·) := by
  rw [decodeRows, read]

theorem decodeRows_cons_of_error {row : Json} {cause : DecodeError}
    (unreadable : decode row = .error cause) :
    decodeRows kind decode (row :: rows) = .error (.row kind cause) := by
  rw [decodeRows, unreadable]

theorem decodeRows_eq_ok_iff {values : List Row} :
    decodeRows kind decode rows = .ok values ↔
      List.Forall₂ (fun row value => decode row = .ok value) rows values := by
  induction rows generalizing values with
  | nil => simp [decodeRows, eq_comm]
  | cons row rest inductionHypothesis =>
      rw [List.forall₂_cons_left_iff]
      cases read : decode row with
      | error cause => simp [decodeRows_cons_of_error read]
      | ok value =>
          rw [decodeRows_cons_of_ok read]
          simp only [← inductionHypothesis]
          cases decodeRows kind decode rest with
          | error failure => simp [Except.map]
          | ok others => simp [Except.map, eq_comm]

theorem decodeRows_eq_error_iff {failure : Failure} :
    decodeRows kind decode rows = .error failure ↔
      ∃ before row after cause, rows = before ++ row :: after ∧
        (∀ earlier ∈ before, ∃ value, decode earlier = .ok value) ∧
        decode row = .error cause ∧ failure = .row kind cause := by
  constructor
  · intro failed
    induction rows with
    | nil => cases failed
    | cons row rest inductionHypothesis =>
        cases read : decode row with
        | error cause =>
            rw [decodeRows_cons_of_error read] at failed
            cases failed
            exact ⟨[], row, rest, cause, rfl, by simp, read, rfl⟩
        | ok value =>
            rw [decodeRows_cons_of_ok read] at failed
            have later : decodeRows kind decode rest = .error failure := by
              cases others : decodeRows kind decode rest with
              | error cause =>
                  rw [others] at failed
                  exact failed
              | ok values =>
                  rw [others] at failed
                  cases failed
            obtain ⟨before, first, after, cause, split, readable, unreadable, same⟩ :=
              inductionHypothesis later
            refine ⟨row :: before, first, after, cause, by rw [split, List.cons_append], ?_,
              unreadable, same⟩
            rw [List.forall_mem_cons]
            exact ⟨⟨value, read⟩, readable⟩
  · rintro ⟨before, row, after, cause, rfl, readable, unreadable, rfl⟩
    induction before with
    | nil => exact decodeRows_cons_of_error unreadable
    | cons first before inductionHypothesis =>
        rw [List.forall_mem_cons] at readable
        obtain ⟨⟨value, read⟩, readable⟩ := readable
        rw [List.cons_append, decodeRows_cons_of_ok read, inductionHypothesis readable]
        rfl

theorem decodeRows_readsWhole (kind : String) (decode : Json → Except DecodeError Row)
    (rows : List Json) : ReadsWhole kind decode rows (decodeRows kind decode rows) where
  whole _ := decodeRows_eq_ok_iff
  nothing _ := decodeRows_eq_error_iff

/-! ## One call -/

/-- What comes of the answer to a query: its refusal, or its rows. -/
inductive Fetches (sql kind : String) (decode : Json → Except DecodeError Row) :
    Except DbError (List Json) → Except Failure (List Row) → Prop where
  | refused (cause : DbError) :
      Fetches sql kind decode (.error cause) (.error (.statement sql cause))
  | answered {rows : List Json} {result : Except Failure (List Row)}
      (read : ReadsWhole kind decode rows result) : Fetches sql kind decode (.ok rows) result

/-- What is held where the one call is a query, whose rows are the result. -/
structure Asks (server : Server State) (state : State) (sql kind : String)
    (decode : Json → Except DecodeError Row) (held : Held (Except Failure (List Row)) State) :
    Prop where
  calls : held.calls = [.query sql (server.query sql state).1]
  later : held.state = (server.query sql state).2
  fetches : Fetches sql kind decode (server.query sql state).1 held.result

/-- What is held where the one call is a statement to execute, which answers with no rows. -/
structure Commands (server : Server State) (state : State) (sql : String)
    (held : Held (Except Failure (List Row)) State) : Prop where
  calls : held.calls = [.execute sql (server.execute sql state).1]
  later : held.state = (server.execute sql state).2
  result : held.result =
    match (server.execute sql state).1 with
    | .ok () => .ok []
    | .error cause => .error (.statement sql cause)

theorem fetch_asks (server : Server State) (state : State) (sql kind : String)
    (decode : Json → Except DecodeError Row) :
    Asks server state sql kind decode ((fetch sql kind decode).run server state) := by
  rw [fetch, Dialogue.run_note, Dialogue.run_query]
  constructor
  case calls =>
    rw [Held.calls_after, Held.calls_after]
    cases (server.query sql state).1 <;> rfl
  case later => cases (server.query sql state).1 <;> rfl
  case fetches =>
    cases (server.query sql state).1 with
    | error cause => exact .refused cause
    | ok rows => exact .answered (decodeRows_readsWhole kind decode rows)

theorem Asks.after_note {held : Held (Except Failure (List Row)) State}
    (asks : Asks server state sql kind decode held) (event : Event) :
    Asks server state sql kind decode (held.after [.note event]) where
  calls := by
    rw [Held.calls_after]
    exact asks.calls
  later := asks.later
  fetches := asks.fetches

/-! ## Maintenance -/

/-- The statement of an operation on partitions, in the order that they are named in. -/
def maintenanceText (table : TableName) (operation : Maintenance) (partitions : List String) :
    String :=
  "ALTER TABLE " ++ table.text ++ " " ++ operation.word ++ " PARTITION " ++
    ", ".intercalate partitions

/-- What is held to carry an operation out on partitions. -/
structure Maintains (server : Server State) (state : State) (table : TableName)
    (operation : Maintenance) (partitions : List String)
    (held : Held (Except Failure (List MaintenanceReport)) State) : Prop where
  /-- Without partitions nothing is asked. -/
  unnamed : partitions = [] →
    held.calls = [] ∧ held.state = state ∧
      held.result = .error (.invalidDefinition (.nothingToMaintain operation.word))
  commanded : partitions ≠ [] → operation ∈ [.truncate, .drop, .rebuild] →
    Commands server state (maintenanceText table operation partitions) held
  reported : partitions ≠ [] → operation ∈ [.optimize, .analyze, .repair, .check] →
    Asks server state (maintenanceText table operation partitions) "maintenance"
      MaintenanceReport.ofJson held

theorem render_of_named {partitions : List String} (named : partitions ≠ [])
    (operation : Maintenance) (table : TableName) :
    operation.render table partitions = .ok (maintenanceText table operation partitions) := by
  rw [Maintenance.render, List.isEmpty_eq_false_iff.mpr named]
  rfl

theorem maintain_commands {operation : Maintenance} (silent : operation.returnsRows = false)
    {partitions : List String} (named : partitions ≠ []) (table : TableName) (server : Server State)
    (state : State) :
    Commands server state (maintenanceText table operation partitions)
      ((maintain table operation partitions).run server state) := by
  rw [maintain, render_of_named named]
  simp only [silent, Bool.false_eq_true, reduceIte, Dialogue.run_note, Dialogue.run_bind,
    execute_run]
  constructor
  case calls =>
    rw [Held.calls_after, Held.calls_after]
    cases (server.execute (maintenanceText table operation partitions) state).1 <;> rfl
  case later =>
    cases (server.execute (maintenanceText table operation partitions) state).1 <;> rfl
  case result =>
    rcases (server.execute (maintenanceText table operation partitions) state).1 with
      cause | ⟨⟩ <;> rfl

theorem maintain_asks {operation : Maintenance} (answers : operation.returnsRows = true)
    {partitions : List String} (named : partitions ≠ []) (table : TableName) (server : Server State)
    (state : State) :
    Asks server state (maintenanceText table operation partitions) "maintenance"
      MaintenanceReport.ofJson ((maintain table operation partitions).run server state) := by
  rw [maintain, render_of_named named]
  simp only [answers, reduceIte, Dialogue.run_note]
  exact (fetch_asks server state _ _ _).after_note _

theorem maintain_maintains (server : Server State) (state : State) (table : TableName)
    (operation : Maintenance) (partitions : List String) :
    Maintains server state table operation partitions
      ((maintain table operation partitions).run server state) := by
  constructor
  case unnamed =>
    rintro rfl
    exact ⟨rfl, rfl, rfl⟩
  case commanded =>
    intro named command
    apply maintain_commands _ named
    revert command
    cases operation <;> simp [Maintenance.returnsRows]
  case reported =>
    intro named report
    apply maintain_asks _ named
    revert report
    cases operation <;> simp [Maintenance.returnsRows]

end Partitioner

/-! ## Rows in a session -/

/-- Operations that answer with rows make one call for them and give all of them or none. -/
structure AnswersWhole (server : Server State) (state : State) : Prop where
  /-- Maintenance is the same whatever is remembered, which it leaves as it is. -/
  maintained : ∀ (table : TableName) (operation : Maintenance) (partitions : List String),
    ∃ held, Partitioner.Maintains server state table operation partitions held ∧
      ∀ currentYear backend cache,
        ((Operation.maintain table operation partitions).dialogue currentYear backend cache).run
            server state =
          ⟨(held.result.map .reports, cache), held.state, held.transcript⟩
  /-- A listing is asked for once the server is found to partition tables. -/
  listed : ∀ (schema table : String) currentYear backend cache dialect,
    let looked := (Cache.resolve cache backend).run server state
    looked.result.1 = .ok (.supported dialect) →
      ∃ held,
        Partitioner.Asks server looked.state (dialect.strategy.listing schema table) "partition"
          PartitionInfo.ofJson held ∧
        ((Operation.listPartitions schema table).dialogue currentYear backend cache).run server
            state =
          ⟨(held.result.map .partitions, looked.result.2), held.state,
            looked.transcript ++ held.transcript⟩

/-- With every server, in every state and whatever is remembered of it, maintenance makes a single
call for the partitions that it is given, and the rows of an answer are read whole or not at all. -/
theorem rows_answerWhole {State : Type} (server : Server State) (state : State) :
    AnswersWhole server state := by
  constructor
  case maintained =>
    intro table operation partitions
    refine ⟨_, Partitioner.maintain_maintains server state table operation partitions, ?_⟩
    intro currentYear backend cache
    rw [Operation.dialogue, Operation.answering_run, Operation.keeping_run]
  case listed =>
    intro schema table currentYear backend cache dialect looked supported
    refine ⟨_, Partitioner.fetch_asks server looked.state (dialect.strategy.listing schema table)
      "partition" PartitionInfo.ofJson, ?_⟩
    have gated : (Operation.listPartitions schema table).isGated = true := rfl
    have granted : Support.granted looked.result.1 = .ok dialect :=
      Support.granted_eq_ok_iff.mpr supported
    rw [Operation.dialogue_gated gated trivial, Operation.bodyAfter, granted]
    simp only [Operation.body, Dialogue.run_bind, Dialogue.run_done, Held.result_after,
      Held.state_after, Held.transcript_after, List.append_nil]
    rfl

end TablePartitioning
