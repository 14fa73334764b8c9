import TablePartitioning.CommandLine.Printing
import TablePartitioning.Proofs.Dialogue.Statements

/-!
# Printing what would be sent

Once the dialect of a server is remembered, the statements of an operation depend on nothing that
the server could still say.  `Operation.statements` lists them, and each operation is shown to come
to its list: by itself where the statements are sent one by one, through the rows that are read
where they are queries.  A printer and a live server are then two servers of one dialogue.
-/

namespace TablePartitioning

namespace Operation

/-- The statements of an operation in a dialect, or why there are none. -/
def statements (currentYear : Int32) (dialect : Dialect) :
    Operation → Except Failure (List String)
  | .create table request =>
      (request.layout currentYear).bind (dialect.strategy.render table)
  | .listPartitions schema table => .ok [dialect.strategy.listing schema table]
  | .maintain table operation partitions => (operation.render table partitions).map ([·])
  | .forceAutoIncrement table field columnType =>
      .ok (dialect.strategy.autoIncrement table field columnType)
  | .havePartitioning | .assertSupport | .reset => .ok []

/-- Whether an operation can read a row. -/
def Reads (operation : Operation) (row : Json) : Prop :=
  match operation with
  | .listPartitions _ _ => ∃ info, PartitionInfo.ofJson row = .ok info
  | .maintain _ _ _ => ∃ report, MaintenanceReport.ofJson row = .ok report
  | _ => True

end Operation

/-- Whether something was obtained and not a failure. -/
def Obtained (result : Except Failure Result) : Prop :=
  ∃ value, result = .ok value

namespace Partitioner

open Dialogue

variable {reads : Json → Prop} {statements : List String}

theorem execute_sends (sql : String) : (execute sql).Sends reads Obtained [sql] := by
  exact .note (.execute (.done ⟨(), rfl⟩))

theorem executeAll_sends (statements : List String) :
    (executeAll statements).Sends reads Obtained statements := by
  induction statements with
  | nil => exact .done ⟨(), rfl⟩
  | cons sql rest inductionHypothesis =>
      apply (execute_sends sql).bind
      rintro result ⟨_, rfl⟩
      exact inductionHypothesis

theorem apply_sends (request : Request) (table : TableName) (dialect : Dialect)
    (statements : List String) :
    (apply request table dialect statements).Sends reads Obtained statements := by
  have sends : (executeAll statements).Sends reads Obtained statements :=
    executeAll_sends statements
  unfold apply
  split
  · exact .note (.note sends)
  · exact .note sends

theorem decodeRows_of_readable {Row : Type} {kind : String}
    {decode : Json → Except DecodeError Row} (rows : List Json)
    (readable : ∀ row ∈ rows, ∃ value, decode row = .ok value) :
    Obtained (decodeRows kind decode rows) := by
  induction rows with
  | nil => exact ⟨[], rfl⟩
  | cons row rest inductionHypothesis =>
      obtain ⟨first, later⟩ := List.forall_mem_cons.mp readable
      obtain ⟨value, decoded⟩ := first
      obtain ⟨values, rest⟩ := inductionHypothesis later
      refine ⟨value :: values, ?_⟩
      rw [decodeRows, decoded]
      simp only [rest]
      rfl

theorem fetch_sends {Row : Type} {decode : Json → Except DecodeError Row} (sql kind : String)
    (readable : ∀ row, reads row → ∃ value, decode row = .ok value) :
    (fetch sql kind decode).Sends reads Obtained [sql] := by
  apply Sends.note
  apply Sends.query
  intro rows read
  exact .done (decodeRows_of_readable rows fun row member => readable row (read row member))

theorem assertSupport_of_known {cache : Cache} {dialect : Dialect}
    (known : cache.known = some (.supported dialect)) (backend : Backend) :
    assertSupport backend cache = .done (.ok dialect, cache) := by
  rw [assertSupport, Cache.resolve, known]
  rfl

/-- The dialect that is recorded decides, be it supported or not. -/
theorem strategyFor_of_named {cache : Cache} {support : Support} {dialect : Dialect}
    (known : cache.known = some support) (named : support.dialect? = some dialect)
    (backend : Backend) : strategyFor backend cache = dialect.strategy := by
  have recorded : cache.peek.dialect = some dialect := by
    rw [Cache.peek, known]
    exact named
  rw [strategyFor, recorded]

theorem maintain_sends {operation : Maintenance} {table : TableName} {partitions : List String}
    {sql : String} (rendered : operation.render table partitions = .ok sql)
    (readable : ∀ row, reads row → ∃ report, MaintenanceReport.ofJson row = .ok report) :
    (maintain table operation partitions).Sends reads Obtained [sql] := by
  rw [maintain, rendered]
  apply Sends.note
  split
  · exact fetch_sends sql "maintenance" readable
  · apply (execute_sends sql).finish
    rintro result ⟨_, rfl⟩
    exact .done ⟨[], rfl⟩

end Partitioner

namespace Operation

open Dialogue

variable {Result : Type} {reads : Json → Prop} {statements : List String} {currentYear : Int32}
  {dialect : Dialect} {cache : Cache}

theorem answering_sends {dialogue : Dialogue (Except Failure Result × Cache)}
    (sends : dialogue.Sends reads (fun outcome => Obtained outcome.1) statements)
    (wrap : Result → Answer) :
    (answering wrap dialogue).Sends reads (fun outcome => Obtained outcome.1) statements := by
  apply sends.finish
  rintro ⟨result, remembered⟩ ⟨value, rfl⟩
  exact .done ⟨wrap value, rfl⟩

theorem keeping_sends {dialogue : Dialogue (Except Failure Result)}
    (sends : dialogue.Sends reads Obtained statements) (cache : Cache) :
    (keeping cache dialogue).Sends reads (fun outcome => Obtained outcome.1) statements := by
  apply sends.finish
  intro result obtained
  exact .done obtained

/-- An operation comes to the statements that are listed for it. -/
theorem dialogue_sends {operation : Operation} (known : cache.known = some (.supported dialect))
    (listed : operation.statements currentYear dialect = .ok statements) (backend : Backend) :
    (operation.dialogue currentYear backend cache).Sends operation.Reads
      (fun outcome => Obtained outcome.1) statements := by
  cases operation with
  | havePartitioning =>
      cases listed
      rw [dialogue, Cache.resolve, known]
      exact .done ⟨_, rfl⟩
  | assertSupport =>
      cases listed
      rw [dialogue, Partitioner.assertSupport_of_known known]
      exact .done ⟨_, rfl⟩
  | create table request =>
      apply answering_sends
      cases laidOut : request.layout currentYear with
      | error failure =>
          rw [Operation.statements, laidOut] at listed
          cases listed
      | ok layout =>
          rw [Operation.statements, laidOut] at listed
          have rendered : dialect.strategy.render table layout = .ok statements := listed
          simp only [Partitioner.create, laidOut, Partitioner.assertSupport_of_known known,
            Dialogue.bind, rendered]
          apply (Partitioner.apply_sends request table dialect statements).finish
          intro result obtained
          exact .done obtained
  | listPartitions schema table =>
      cases listed
      apply answering_sends
      rw [Partitioner.listPartitions, Partitioner.assertSupport_of_known known]
      apply (Partitioner.fetch_sends _ "partition" fun row read => read).finish
      intro result obtained
      exact .done obtained
  | maintain table maintenance partitions =>
      apply answering_sends
      apply keeping_sends
      cases rendered : maintenance.render table partitions with
      | error failure =>
          rw [Operation.statements, rendered] at listed
          cases listed
      | ok sql =>
          rw [Operation.statements, rendered] at listed
          cases listed
          exact Partitioner.maintain_sends rendered fun row read => read
  | forceAutoIncrement table field columnType =>
      cases listed
      apply answering_sends
      apply keeping_sends
      rw [Partitioner.forceAutoIncrement, Partitioner.strategyFor_of_named known rfl]
      exact .note (Partitioner.executeAll_sends _)
  | reset =>
      cases listed
      exact .done ⟨_, rfl⟩

/-- Where no statements are listed for an operation, it ends without a word. -/
theorem dialogue_of_unlisted {operation : Operation} {failure : Failure}
    (known : cache.known = some (.supported dialect))
    (unlisted : operation.statements currentYear dialect = .error failure) (backend : Backend) :
    operation.dialogue currentYear backend cache = .done (.error failure, cache) := by
  cases operation with
  | create table request =>
      cases laidOut : request.layout currentYear with
      | error refused =>
          rw [Operation.statements, laidOut] at unlisted
          cases unlisted
          rw [dialogue, Partitioner.create, laidOut]
          rfl
      | ok layout =>
          rw [Operation.statements, laidOut] at unlisted
          have refused : dialect.strategy.render table layout = .error failure := unlisted
          simp only [dialogue, Partitioner.create, laidOut,
            Partitioner.assertSupport_of_known known, Dialogue.bind, refused]
          rfl
  | maintain table maintenance partitions =>
      cases rendered : maintenance.render table partitions with
      | error refused =>
          rw [Operation.statements, rendered] at unlisted
          cases unlisted
          rw [dialogue, Partitioner.maintain, rendered]
          rfl
      | ok sql =>
          rw [Operation.statements, rendered] at unlisted
          cases unlisted
  | havePartitioning => cases unlisted
  | assertSupport => cases unlisted
  | listPartitions schema table => cases unlisted
  | forceAutoIncrement table field columnType => cases unlisted
  | reset => cases unlisted

theorem reported_sends {operation : Operation} (known : cache.known = some (.supported dialect))
    (listed : operation.statements currentYear dialect = .ok statements) (backend : Backend) :
    (operation.reported currentYear backend cache).Sends operation.Reads
      (fun outcome => Obtained outcome.1) statements := by
  apply (dialogue_sends known listed backend).finish
  rintro ⟨result, remembered⟩ ⟨answer, rfl⟩
  exact .done ⟨answer.report remembered, rfl⟩

theorem reported_of_unlisted {operation : Operation} {failure : Failure}
    (known : cache.known = some (.supported dialect))
    (unlisted : operation.statements currentYear dialect = .error failure) (backend : Backend) :
    operation.reported currentYear backend cache = .done (.error failure, cache) := by
  rw [reported, dialogue_of_unlisted known unlisted]
  rfl

end Operation

/-! ## The printer and the server -/

/-- What is printed in place of an operation, and what the operation sends to a live server. -/
structure PrintsWhatIsSent (planned : Except Failure (List String))
    (printed : Held (Except Failure String × Cache) (List String))
    (live : Held (Except Failure String × Cache) State) : Prop where
  /-- Each statement stands on a line of its own, with a semicolon behind it. -/
  text : Printing.text printed.state = String.join (live.sent.map fun sql => sql ++ ";\n")
  carriedOut : ∀ statements, planned = .ok statements →
    live.sent = statements ∧ Obtained printed.result.1 ∧ Obtained live.result.1
  /-- The failure is that of writing the statements, and it comes before anything is said. -/
  refused : ∀ failure, planned = .error failure →
    printed.result.1 = .error failure ∧ live.result.1 = .error failure ∧
      printed.transcript = [] ∧ live.transcript = []

/-- A dry run prints what every server that partitions tables in the dialect is sent, whatever its
kind, as long as it carries out what it is asked to. -/
theorem dryRun_printsWhatIsSent {State : Type} {server : Server State} {state : State}
    {currentYear : Int32} {backend : Backend} {dialect : Dialect} {cache : Cache}
    {operation : Operation} (known : cache.known = some (.supported dialect))
    (succeeds : ∀ utterance ∈
      ((operation.reported currentYear backend cache).run server state).transcript,
        utterance.Succeeds operation.Reads) :
    PrintsWhatIsSent (operation.statements currentYear dialect)
      ((operation.reported currentYear (Printing.backendOf dialect) (.ofDialect dialect)).run
        Printing.server [])
      ((operation.reported currentYear backend cache).run server state) := by
  have granted : (Cache.ofDialect dialect).known = some (.supported dialect) := rfl
  cases planned : operation.statements currentYear dialect with
  | error failure =>
      rw [Operation.reported_of_unlisted known planned,
        Operation.reported_of_unlisted granted planned]
      constructor
      case text => rfl
      case carriedOut =>
        intro statements impossible
        cases impossible
      case refused =>
        intro other same
        cases same
        exact ⟨rfl, rfl, rfl, rfl⟩
  | ok statements =>
      have live := (Operation.reported_sends known planned backend).run server state succeeds
      have printed :=
        (Operation.reported_sends granted planned (Printing.backendOf dialect)).print []
      constructor
      case text =>
        rw [printed.1, live.1, List.append_nil, Printing.text_reverse]
      case carriedOut =>
        intro other same
        cases same
        exact ⟨live.1, printed.2, live.2⟩
      case refused =>
        intro failure impossible
        cases impossible

/-- A server that answers every query with one row, and counts its calls. -/
def oneRow : Server Nat where
  version calls := (.ok "8.0.36", calls + 1)
  query _ calls := (.ok [.object [("PARTITION_NAME", .string "p0")]], calls + 1)
  execute _ calls := (.ok (), calls + 1)

/-- The partitions are listed in the dialect that is remembered, on a server of another kind. -/
def rememberedListing : Held (Except Failure String × Cache) Nat :=
  ((Operation.listPartitions "app" "events").reported 2026 .postgres
    (.ofDialect .mysqlNative)).run oneRow 0

theorem rememberedListing_printsWhatIsSent :
    (Cache.ofDialect .mysqlNative).known = some (.supported .mysqlNative) ∧
      (∀ utterance ∈ rememberedListing.transcript,
        utterance.Succeeds (Operation.listPartitions "app" "events").Reads) ∧
      PrintsWhatIsSent ((Operation.listPartitions "app" "events").statements 2026 .mysqlNative)
        (((Operation.listPartitions "app" "events").reported 2026
          (Printing.backendOf .mysqlNative) (.ofDialect .mysqlNative)).run Printing.server [])
        rememberedListing := by
  have known : (Cache.ofDialect .mysqlNative).known = some (.supported .mysqlNative) := rfl
  have succeeds : ∀ utterance ∈ rememberedListing.transcript,
      utterance.Succeeds (Operation.listPartitions "app" "events").Reads := by
    have said : rememberedListing.transcript =
        [.note (.querying (Ddl.AlterTable.listing "app" "events")),
          .query (Ddl.AlterTable.listing "app" "events")
            (.ok [.object [("PARTITION_NAME", .string "p0")]])] := rfl
    have row : (Operation.listPartitions "app" "events").Reads
        (.object [("PARTITION_NAME", .string "p0")]) :=
      ⟨⟨some "p0", none, none, none, none⟩, rfl⟩
    rw [said]
    simpa [Utterance.Succeeds] using row
  exact ⟨known, succeeds, dryRun_printsWhatIsSent known succeeds⟩

end TablePartitioning
