import TablePartitioning.Partitioner
import TablePartitioning.Proofs.Dialogue.Transcript

/-!
# What is sent to create partitions

The statements of a request are settled before the first of them is sent: `Request.planned` writes
them down from what was found out about the server alone.  `Sent` describes how a list of
statements can be sent, by induction on the list, and `create_sendsPlan` concludes that a request
sends its statements in order, up to the first that the server refuses, and otherwise nothing.
-/

namespace TablePartitioning

/-- The dialect that a server was found to partition tables in, or why there is none. -/
def Support.granted : Except Failure Support → Except Failure Dialect
  | .ok (.supported dialect) => .ok dialect
  | .ok (.unsupported _) => .error .unsupported
  | .error failure => .error failure

theorem Support.granted_eq_ok_iff {found : Except Failure Support} {dialect : Dialect} :
    granted found = .ok dialect ↔ found = .ok (.supported dialect) := by
  rcases found with failure | (known | candidate) <;> simp [granted]

/-- The statements of a request, or why there are none, from what was found out of the server. -/
def Request.planned (request : Request) (currentYear : Int32) (table : TableName)
    (found : Except Failure Support) : Except Failure (List String) :=
  match request.layout currentYear, Support.granted found with
  | .error failure, _ => .error failure
  | .ok _, .error failure => .error failure
  | .ok layout, .ok dialect => dialect.strategy.render table layout

namespace Partitioner

variable {State : Type}

/-! ## Sending a list of statements -/

/-- Statements that were all executed. -/
def executed (statements : List String) : List (String × Except DbError Unit) :=
  statements.map fun sql => (sql, .ok ())

@[simp]
theorem length_executed (statements : List String) :
    (executed statements).length = statements.length := by
  simp [executed]

@[simp]
theorem map_fst_executed (statements : List String) :
    (executed statements).map Prod.fst = statements := by
  simp [executed, Function.comp_def]

theorem not_refused_executed (statements : List String) (position : Nat) (sql : String)
    (cause : DbError) : (executed statements)[position]? ≠ some (sql, .error cause) := by
  simp [executed]

/-- What the server was asked to execute of a list of statements, and what came of it: all of it
was executed, or the statement after those that were executed was refused. -/
inductive Sent (statements : List String) :
    List (String × Except DbError Unit) → Except Failure Unit → Prop where
  | all : Sent statements (executed statements) (.ok ())
  | upTo (before : List String) (sql : String) (rest : List String) (cause : DbError)
      (split : statements = before ++ sql :: rest) :
      Sent statements (executed before ++ [(sql, .error cause)])
        (.error (.statement sql cause))

theorem Sent.cons {statements : List String} {executions : List (String × Except DbError Unit)}
    {result : Except Failure Unit} (sent : Sent statements executions result) (sql : String) :
    Sent (sql :: statements) ((sql, .ok ()) :: executions) result := by
  cases sent with
  | all => exact Sent.all
  | upTo before refused rest cause split =>
      exact Sent.upTo (sql :: before) refused rest cause (by rw [split, List.cons_append])

theorem Sent.isPrefix {statements : List String}
    {executions : List (String × Except DbError Unit)} {result : Except Failure Unit}
    (sent : Sent statements executions result) : executions.map Prod.fst <+: statements := by
  cases sent with
  | all => simp
  | upTo before sql rest cause split =>
      refine ⟨rest, ?_⟩
      simp [split]

theorem Sent.complete {statements : List String}
    {executions : List (String × Except DbError Unit)}
    (sent : Sent statements executions (.ok ())) : executions = executed statements := by
  cases sent with
  | all => rfl

/-- Only the last statement can have been refused, and the refusal is what the sending ends with. -/
theorem Sent.stopped {statements : List String}
    {executions : List (String × Except DbError Unit)} {result : Except Failure Unit}
    (sent : Sent statements executions result) {position : Nat} {sql : String} {cause : DbError}
    (refused : executions[position]? = some (sql, .error cause)) :
    result = .error (.statement sql cause) ∧ statements[position]? = some sql ∧
      executions = executed (statements.take position) ++ [(sql, .error cause)] := by
  cases sent with
  | all => exact (not_refused_executed statements position sql cause refused).elim
  | upTo before last rest reason split =>
      rcases Nat.lt_trichotomy position before.length with earlier | rfl | later
      · rw [List.getElem?_append_left (by simpa using earlier)] at refused
        exact (not_refused_executed before position sql cause refused).elim
      · have same : (last, Except.error reason) = (sql, (.error cause : Except DbError Unit)) := by
          simpa using refused
        cases same
        refine ⟨rfl, ?_, ?_⟩
        · simp [split]
        · simp [split]
      · rw [List.getElem?_eq_none (by simp; omega)] at refused
        cases refused

theorem Sent.failed {statements : List String}
    {executions : List (String × Except DbError Unit)} {failure : Failure}
    (sent : Sent statements executions (.error failure)) :
    ∃ (position : Nat) (sql : String) (cause : DbError),
      executions[position]? = some (sql, .error cause) ∧ failure = .statement sql cause := by
  cases sent with
  | upTo before sql rest cause split =>
      refine ⟨before.length, sql, cause, ?_, rfl⟩
      simp

theorem execute_run (server : Server State) (sql : String) (state : State) :
    (execute sql).run server state =
      ⟨((server.execute sql state).1).mapError (.statement sql), (server.execute sql state).2,
        [.note (.executing sql), .execute sql (server.execute sql state).1]⟩ := by
  rw [execute, Dialogue.run_note, Dialogue.run_execute]
  rcases server.execute sql state with ⟨cause | ⟨⟩, later⟩ <;> rfl

theorem executeAll_sent (server : Server State) (statements : List String) (state : State) :
    Sent statements ((executeAll statements).run server state).executions
      ((executeAll statements).run server state).result := by
  induction statements generalizing state with
  | nil => exact Sent.all
  | cons sql rest inductionHypothesis =>
      rw [executeAll, Dialogue.run_bind, execute_run, Held.executions_after, Held.result_after]
      rcases server.execute sql state with ⟨cause | ⟨⟩, later⟩
      · exact Sent.upTo [] sql rest cause rfl
      · exact (inductionHypothesis later).cons sql

theorem apply_sent (server : Server State) (request : Request) (table : TableName)
    (dialect : Dialect) (statements : List String) (state : State) :
    Sent statements ((apply request table dialect statements).run server state).executions
      ((apply request table dialect statements).run server state).result := by
  have sent := executeAll_sent server statements state
  unfold apply
  split
  · rw [Dialogue.run_note, Dialogue.run_note, Held.executions_after, Held.executions_after]
    exact sent
  · rw [Dialogue.run_note, Held.executions_after]
    exact sent

/-! ## Sending what a request comes to -/

theorem assertSupport_run (backend : Backend) (cache : Cache) (server : Server State)
    (state : State) :
    (assertSupport backend cache).run server state =
      let resolved := (cache.resolve backend).run server state
      ⟨(Support.granted resolved.result.1, resolved.result.2), resolved.state,
        resolved.transcript⟩ := by
  rw [assertSupport, Dialogue.run_bind]
  rcases (cache.resolve backend).run server state with
    ⟨⟨failure | dialect | candidate, remembered⟩, later, said⟩
  · simp [Held.after, Support.granted]
  · simp [Held.after, Support.granted]
  · simp [Held.after, Support.granted]

/-- A request sends what was planned of it, and ends with that; without a plan it sends nothing. -/
theorem create_sent (server : Server State) (state : State) (currentYear : Int32)
    (backend : Backend) (cache : Cache) (table : TableName) (request : Request) :
    let found := ((cache.resolve backend).run server state).result.1
    let held := (create currentYear backend cache table request).run server state
    match request.planned currentYear table found with
    | .error failure => held.executions = [] ∧ held.result.1 = .error failure
    | .ok statements => Sent statements held.executions held.result.1 := by
  have bounded := (cache.resolve_saysOnly backend).run server state
  intro found held
  cases laidOut : request.layout currentYear with
  | error failure =>
      simp only [held, Request.planned, create, laidOut]
      exact ⟨rfl, rfl⟩
  | ok layout =>
      simp only [held, found, Request.planned, create, laidOut]
      rw [Dialogue.run_bind, assertSupport_run, Held.executions_after_detection bounded,
        Held.result_after]
      rcases (cache.resolve backend).run server state with ⟨⟨answer, remembered⟩, later, said⟩
      cases granted : Support.granted answer with
      | error failure =>
          simp only [granted]
          exact ⟨rfl, rfl⟩
      | ok dialect =>
          cases rendered : dialect.strategy.render table layout with
          | error failure =>
              simp only [granted, rendered]
              exact ⟨rfl, rfl⟩
          | ok statements =>
              simp only [granted, rendered]
              rw [Dialogue.run_bind]
              have sent := apply_sent server request table dialect statements later
              simpa [Held.executions] using sent

/-- What a held operation has sent of the statements that were planned for it. -/
structure SendsPlan (planned : Except Failure (List String))
    (held : Held (Except Failure Unit × Cache) State) : Prop where
  /-- Without a plan nothing is executed, and the reason is the result. -/
  refused : ∀ failure, planned = .error failure →
    held.executions = [] ∧ held.result.1 = .error failure
  inOrder : ∀ statements, planned = .ok statements →
    held.executions.map Prod.fst <+: statements
  complete : held.result.1 = .ok () →
    ∃ statements, planned = .ok statements ∧ held.executions = executed statements
  /-- The first refusal is the last thing that is said, and is handed on as it is. -/
  stopped : ∀ (position : Nat) (sql : String) (cause : DbError),
    held.executions[position]? = some (sql, .error cause) →
    held.result.1 = .error (.statement sql cause) ∧
      ∃ statements, planned = .ok statements ∧ statements[position]? = some sql ∧
        held.executions = executed (statements.take position) ++ [(sql, .error cause)]
  /-- A failure is either a refusal of a statement or comes before anything is executed. -/
  failed : ∀ failure, held.result.1 = .error failure →
    (∃ (position : Nat) (sql : String) (cause : DbError),
      held.executions[position]? = some (sql, .error cause) ∧ failure = .statement sql cause) ∨
    planned = .error failure ∧ held.executions = []

end Partitioner

end TablePartitioning
