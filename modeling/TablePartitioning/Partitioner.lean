import TablePartitioning.Capability.Detection
import TablePartitioning.Ddl.Strategy
import TablePartitioning.Rows

/-!
# Operations on partitioned tables

An operation that creates partitions first makes sure that the server partitions tables, then
writes all its statements, and only then sends them one by one; the first that fails ends it.  A
span of years that does not exist is refused before the server is looked at.  Maintenance and
automatic numbering do not look at the server at all.
-/

namespace TablePartitioning

/-- What is to be created. -/
inductive Request where
  | range (column : String) (definitions : List Definition) (includeFuture : Bool)
  | list (column : String) (definitions : List Definition)
  | hash (column : String) (count : Nat)
  | key (count : Nat)
  | months (column : String)
  /-- Buckets by years, up to the current year where no last year is given. -/
  | years (column : String) (start : Int32) (finish : Option Int32) (timestamp : Bool)
  | yearsMonths (column : String) (start : Int32) (finish : Option Int32) (includeFuture : Bool)
      (timestamp : Bool)
  | parentTable (column columnType : String) (method : PartitionMethod) (nullable : Bool)
deriving DecidableEq

namespace Request

/-- The name of a request in events. -/
def name : Request → String
  | .range _ _ _ => "range"
  | .list _ _ => "list"
  | .hash _ _ => "hash"
  | .key _ => "key"
  | .months _ => "months"
  | .years _ _ _ _ => "years"
  | .yearsMonths _ _ _ _ _ => "years-months"
  | .parentTable _ _ _ _ => "create-table"

/-- The layout that is asked for. -/
def layout (currentYear : Int32) : Request → Except Failure Layout
  | .range column definitions includeFuture => .ok (.range column definitions includeFuture)
  | .list column definitions => .ok (.list column definitions)
  | .hash column count => .ok (.hash column count)
  | .key count => .ok (.key count)
  | .months column => .ok (.monthOfYear column)
  | .years column start finish timestamp =>
      (YearSpan.between start (finish.getD currentYear)).map fun span =>
        .calendar column ⟨span, .year, true, timestamp⟩
  | .yearsMonths column start finish includeFuture timestamp =>
      (YearSpan.between start (finish.getD currentYear)).map fun span =>
        .calendar column ⟨span, .yearMonth, includeFuture, timestamp⟩
  | .parentTable column columnType method nullable =>
      .ok (.parentTable column columnType method nullable)

/-- Whether the request is for a parent table. -/
def isParentTable : Request → Bool
  | .parentTable _ _ _ _ => true
  | _ => false

end Request

namespace Partitioner

/-- Make sure that the server partitions tables. -/
def assertSupport (backend : Backend) (cache : Cache) :
    Dialogue (Except Failure Dialect × Cache) :=
  (cache.resolve backend).bind fun
    | (.ok (.supported dialect), cache) => .done (.ok dialect, cache)
    | (.ok (.unsupported _), cache) => .done (.error .unsupported, cache)
    | (.error failure, cache) => .done (.error failure, cache)

/-- Send one statement. -/
def execute (sql : String) : Dialogue (Except Failure Unit) :=
  .note (.executing sql) <| .execute sql fun
    | .ok () => .done (.ok ())
    | .error cause => .done (.error (.statement sql cause))

/-- Send statements one after the other, up to the first that fails. -/
def executeAll : List String → Dialogue (Except Failure Unit)
  | [] => .done (.ok ())
  | sql :: rest =>
      (execute sql).bind fun
        | .ok () => executeAll rest
        | .error failure => .done (.error failure)

/-- Read rows up to the first that is not of the expected form. -/
def decodeRows (kind : String) (decode : Json → Except DecodeError Row) :
    List Json → Except Failure (List Row)
  | [] => .ok []
  | row :: rest =>
      match decode row with
      | .error cause => .error (.row kind cause)
      | .ok row => (decodeRows kind decode rest).map (row :: ·)

/-- Send a query and read its rows: all of them, or none. -/
def fetch (sql kind : String) (decode : Json → Except DecodeError Row) :
    Dialogue (Except Failure (List Row)) :=
  .note (.querying sql) <| .query sql fun
    | .ok rows => .done (decodeRows kind decode rows)
    | .error cause => .done (.error (.statement sql cause))

/-- Note what is about to be sent, and send it. -/
def apply (request : Request) (table : TableName) (dialect : Dialect)
    (statements : List String) : Dialogue (Except Failure Unit) :=
  let send : Dialogue (Except Failure Unit) :=
    .note (.applying request.name table dialect statements.length) (executeAll statements)
  if request.isParentTable && statements.isEmpty then
    .note (.nothingToCreate table dialect) send
  else send

/-- Create what is asked for. -/
def create (currentYear : Int32) (backend : Backend) (cache : Cache) (table : TableName)
    (request : Request) : Dialogue (Except Failure Unit × Cache) :=
  match request.layout currentYear with
  | .error failure => .done (.error failure, cache)
  | .ok layout =>
      (assertSupport backend cache).bind fun
        | (.error failure, cache) => .done (.error failure, cache)
        | (.ok dialect, cache) =>
            match dialect.strategy.render table layout with
            | .error failure => .done (.error failure, cache)
            | .ok statements =>
                (apply request table dialect statements).bind fun result =>
                  .done (result, cache)

/-- List the partitions of a table. -/
def listPartitions (backend : Backend) (cache : Cache) (schema table : String) :
    Dialogue (Except Failure (List PartitionInfo) × Cache) :=
  (assertSupport backend cache).bind fun
    | (.error failure, cache) => .done (.error failure, cache)
    | (.ok dialect, cache) =>
        (fetch (dialect.strategy.listing schema table) "partition" PartitionInfo.ofJson).bind
          fun result => .done (result, cache)

/-- Carry out maintenance on partitions. -/
def maintain (table : TableName) (operation : Maintenance) (partitions : List String) :
    Dialogue (Except Failure (List MaintenanceReport)) :=
  match operation.render table partitions with
  | .error failure => .done (.error failure)
  | .ok sql =>
      .note (.maintaining table operation partitions.length) <|
        if operation.returnsRows then fetch sql "maintenance" MaintenanceReport.ofJson
        else
          (execute sql).bind fun
            | .ok () => .done (.ok [])
            | .error failure => .done (.error failure)

/-- The strategy of the dialect that is known, or else that of the kind of server. -/
def strategyFor (backend : Backend) (cache : Cache) : Strategy :=
  match cache.peek.dialect with
  | some dialect => dialect.strategy
  | none => backend.strategy

/-- Make the server number the rows of a column. -/
def forceAutoIncrement (backend : Backend) (cache : Cache) (table : TableName)
    (field columnType : String) : Dialogue (Except Failure Unit) :=
  .note (.forcingAutoIncrement table field) <|
    executeAll ((strategyFor backend cache).autoIncrement table field columnType)

end Partitioner

/-- An operation that can be asked for. -/
inductive Operation where
  | havePartitioning
  | assertSupport
  | create (table : TableName) (request : Request)
  | listPartitions (schema table : String)
  | maintain (table : TableName) (operation : Maintenance) (partitions : List String)
  | forceAutoIncrement (table : TableName) (field columnType : String)
  /-- Forget what is known of the server. -/
  | reset

/-- What an operation results in. -/
inductive Answer where
  | done
  | supported (answer : Bool)
  | dialect (dialect : Dialect)
  | partitions (rows : List PartitionInfo)
  | reports (rows : List MaintenanceReport)

namespace Operation

/-- Turn the result of a dialogue into an answer. -/
def answering (wrap : Result → Answer) (dialogue : Dialogue (Except Failure Result × Cache)) :
    Dialogue (Except Failure Answer × Cache) :=
  dialogue.bind fun (result, cache) => .done (result.map wrap, cache)

/-- A dialogue that leaves the cache as it is. -/
def keeping (cache : Cache) (dialogue : Dialogue (Except Failure Result)) :
    Dialogue (Except Failure Result × Cache) :=
  dialogue.bind fun result => .done (result, cache)

/-- The dialogue of an operation, with the cache before it and the cache after it. -/
def dialogue (currentYear : Int32) (backend : Backend) (cache : Cache) :
    Operation → Dialogue (Except Failure Answer × Cache)
  | .havePartitioning =>
      answering (fun support : Support => .supported support.isSupported) (cache.resolve backend)
  | .assertSupport => answering .dialect (Partitioner.assertSupport backend cache)
  | .create table request =>
      answering (fun _ => .done) (Partitioner.create currentYear backend cache table request)
  | .listPartitions schema table =>
      answering .partitions (Partitioner.listPartitions backend cache schema table)
  | .maintain table operation partitions =>
      answering .reports (keeping cache (Partitioner.maintain table operation partitions))
  | .forceAutoIncrement table field columnType =>
      answering (fun _ => .done)
        (keeping cache (Partitioner.forceAutoIncrement backend cache table field columnType))
  | .reset => .done (.ok .done, Cache.empty)

end Operation

end TablePartitioning
