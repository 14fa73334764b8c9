import TablePartitioning.Config.Loose
import TablePartitioning.Config.Settings
import TablePartitioning.Proofs.Config.Paths
import TablePartitioning.Proofs.Decoding.Layers

/-!
# The settings by their fields

Every field of the settings is read on its own: from the value given under one of its names, or it
has its default.
-/

namespace TablePartitioning

open RecordField RecordShape

variable {Value : Type} (source : Source Value)

namespace DbSettings

/-- Settings of the connection that are read from what is given under the names of the fields. -/
structure TakenFrom (given : List String → Option Value) (settings : DbSettings) : Prop where
  url : Takes source.text default.url (given ["url", "database_url", "dsn"]) settings.url
  schema : Takes (source.optional source.text) default.schema (given ["schema"]) settings.schema
  sqlLogging : Takes source.flag default.sqlLogging (given ["sqlx_logging"]) settings.sqlLogging
  sqlLoggingLevel : Takes (source.named LogFilter.ofWord? LogFilter.unknown)
    default.sqlLoggingLevel (given ["sqlx_logging_level"]) settings.sqlLoggingLevel
  maxConnections : Takes (source.natural (Word.count 32) "u32")
    default.maxConnections (given ["max_connections"]) settings.maxConnections
  minConnections : Takes (source.natural (Word.count 32) "u32")
    default.minConnections (given ["min_connections"]) settings.minConnections
  connectTimeoutSeconds : Takes (source.natural (Word.count 64) "u64")
    default.connectTimeoutSeconds (given ["connect_timeout_seconds"])
    settings.connectTimeoutSeconds
  acquireTimeoutSeconds : Takes (source.natural (Word.count 64) "u64")
    default.acquireTimeoutSeconds (given ["acquire_timeout_seconds"])
    settings.acquireTimeoutSeconds
  slowStatementMilliseconds : Takes (source.natural (Word.count 64) "u64")
    default.slowStatementMilliseconds (given ["slow_statement_threshold_ms"])
    settings.slowStatementMilliseconds

theorem shape_lenient : (shape source).Lenient where
  optional := by simp [shape]
  apart := by simp [shape, names]
  uniform := by
    simp only [shape, List.forall_mem_cons, forall_map_eq_ok, Accepts]
    refine ⟨?_, ?_, ?_, ?_, ?_, ?_, ?_, ?_, ?_, by simp⟩
    all_goals exact fun _ _ _ reads _ => exists_map_eq_ok reads
  shorter := rfl

variable {source} {value : Value} {settings : DbSettings}

/-- What is decoded is taken from what the value gives, for every field. -/
theorem takenFrom_of_decode {given : List String → Option Value}
    (readable : (shape source).Readable source value) (decodes : decode source value = .ok settings)
    (agree : ∀ names ∈ (shape source).fields.map (·.names),
      names.findSome? ((shape source).given source value) = given names) :
    settings.TakenFrom source given := by
  -- Field by field: it is the one under its names, and every store leaves the other fields alone.
  constructor <;>
  exact takes_of_stores (shape_lenient source) readable decodes agree
    (by simp [shape, names]) (by simp [shape, names, forall_map_eq_ok])

end DbSettings

namespace LogSettings

/-- Settings of the log that are read from what is given under the names of the fields. -/
structure TakenFrom (given : List String → Option Value) (settings : LogSettings) : Prop where
  format : Takes (source.named LogFormat.ofName? unknownName) default.format (given ["format"])
    settings.format
  level : Takes (source.named LogLevel.ofText? LogLevel.unknown) default.level (given ["level"])
    settings.level
  directives : Takes (source.optional source.text) default.directives (given ["directives"])
    settings.directives
  ansi : Takes source.flag default.ansi (given ["ansi"]) settings.ansi
  withFilename : Takes source.flag default.withFilename (given ["with_filename"])
    settings.withFilename
  withLineNumber : Takes source.flag default.withLineNumber (given ["with_line_number"])
    settings.withLineNumber

theorem shape_lenient : (shape source).Lenient where
  optional := by simp [shape]
  apart := by simp [shape, names]
  uniform := by
    simp only [shape, List.forall_mem_cons, forall_map_eq_ok, Accepts]
    refine ⟨?_, ?_, ?_, ?_, ?_, ?_, by simp⟩
    all_goals exact fun _ _ _ reads _ => exists_map_eq_ok reads
  shorter := rfl

variable {source} {value : Value} {settings : LogSettings}

/-- What is decoded is taken from what the value gives, for every field. -/
theorem takenFrom_of_decode {given : List String → Option Value}
    (readable : (shape source).Readable source value) (decodes : decode source value = .ok settings)
    (agree : ∀ names ∈ (shape source).fields.map (·.names),
      names.findSome? ((shape source).given source value) = given names) :
    settings.TakenFrom source given := by
  -- Field by field: it is the one under its names, and every store leaves the other fields alone.
  constructor <;>
  exact takes_of_stores (shape_lenient source) readable decodes agree
    (by simp [shape, names]) (by simp [shape, names, forall_map_eq_ok])

end LogSettings

namespace AppSettings

theorem shape_lenient : (shape source).Lenient where
  optional := by simp [shape]
  apart := by simp [shape, names]
  uniform := by
    simp only [shape, List.forall_mem_cons, forall_map_eq_ok, Accepts]
    refine ⟨?_, ?_, by simp⟩
    all_goals exact fun _ _ _ reads _ => exists_map_eq_ok reads
  shorter := rfl

theorem db_part : (shape source).Part ["db"] (DbSettings.decode source) (·.db) :=
  part_of_stores (by simp [shape, names]) (by simp [shape, names, forall_map_eq_ok])

theorem log_part : (shape source).Part ["log"] (LogSettings.decode source) (·.log) :=
  part_of_stores (by simp [shape, names]) (by simp [shape, names, forall_map_eq_ok])

end AppSettings

/-! ## What is taken loosely -/

/-- What a reading that refuses lists and tables is made from. -/
theorem Json.single_of_refused {α : Type} {read : Json → Except DecodeError α} {value : Json}
    {taken : α} (list : ∀ items, ∃ error, read (.array items) = .error error)
    (table : ∀ fields, ∃ error, read (.object fields) = .error error)
    (reads : read value = .ok taken) : loose.contents value = .single := by
  cases value with
  | array items =>
      obtain ⟨error, refused⟩ := list items
      cases refused.symm.trans reads
  | object fields =>
      obtain ⟨error, refused⟩ := table fields
      cases refused.symm.trans reads
  | _ => rfl

theorem DbSettings.single_of_store :
    ∀ field ∈ (shape Json.loose).fields, ∀ value settings stored,
      field.store value settings = .ok stored → Json.loose.contents value = .single := by
  simp only [shape, List.forall_mem_cons, forall_map_eq_ok]
  refine ⟨?_, ?_, ?_, ?_, ?_, ?_, ?_, ?_, ?_, by simp⟩
  all_goals exact fun _ _ _ => Json.single_of_refused (fun _ => ⟨_, rfl⟩) (fun _ => ⟨_, rfl⟩)

theorem LogSettings.single_of_store :
    ∀ field ∈ (shape Json.loose).fields, ∀ value settings stored,
      field.store value settings = .ok stored → Json.loose.contents value = .single := by
  simp only [shape, List.forall_mem_cons, forall_map_eq_ok]
  refine ⟨?_, ?_, ?_, ?_, ?_, ?_, by simp⟩
  all_goals exact fun _ _ _ => Json.single_of_refused (fun _ => ⟨_, rfl⟩) (fun _ => ⟨_, rfl⟩)

/-! ## Groups of settings -/

namespace Config

/-- The groups that the settings of the program are in. -/
inductive Group where
  | db
  | log
deriving DecidableEq

namespace Group

instance decidableForall {holds : Group → Prop} [DecidablePred holds] :
    Decidable (∀ group, holds group) :=
  decidable_of_iff (holds .db ∧ holds .log)
    ⟨fun both group => match group with | .db => both.1 | .log => both.2,
      fun all => ⟨all .db, all .log⟩⟩

/-- The name of the table that a group is. -/
def name : Group → String
  | .db => "db"
  | .log => "log"

/-- The settings of a group. -/
def Settings : Group → Type
  | .db => DbSettings
  | .log => LogSettings

/-- The fields of a group, where texts are converted to what they are needed as. -/
def shape : (group : Group) → RecordShape Json group.Settings
  | .db => DbSettings.shape Json.loose
  | .log => LogSettings.shape Json.loose

/-- The settings of the program that are in a group. -/
def of (settings : AppSettings) : (group : Group) → group.Settings
  | .db => settings.db
  | .log => settings.log

theorem shape_lenient (group : Group) : group.shape.Lenient :=
  match group with
  | .db => DbSettings.shape_lenient Json.loose
  | .log => LogSettings.shape_lenient Json.loose

/-- No field takes a table or a list. -/
theorem single_of_store (group : Group) :
    ∀ field ∈ group.shape.fields, ∀ value settings stored,
      field.store value settings = .ok stored → Json.loose.contents value = .single :=
  match group with
  | .db => DbSettings.single_of_store
  | .log => LogSettings.single_of_store

theorem isKey_name (group : Group) : KeyPath.IsKey group.name := by
  cases group <;> decide

theorem isKey_of_named {group : Group} {field : RecordField Json group.Settings} {name : String}
    (member : field ∈ group.shape.fields) (named : name ∈ field.names) : KeyPath.IsKey name := by
  have keys : ∀ name ∈ group.shape.fields.flatMap (·.names), KeyPath.IsKey name := by
    cases group <;> decide
  exact keys name (List.mem_flatMap.mpr ⟨field, member, named⟩)

/-! ## Tables of groups -/

variable {entries : List (String × Json)} {settings : AppSettings}

/-- The field that a group is. -/
structure IsField (group : Group) (field : RecordField Json AppSettings) : Prop where
  names : field.names = [group.name]
  accepts : ∀ value, field.Accepts value ↔
    ∃ decoded, group.shape.decode Json.loose value = .ok decoded

theorem exists_isField (group : Group) :
    ∃ field ∈ (AppSettings.shape Json.loose).fields, group.IsField field := by
  cases group with
  | db =>
      exact ⟨_, List.mem_cons_self, rfl, fun _ =>
        accepts_iff_of_store AppSettings.default fun _ _ => rfl⟩
  | log =>
      exact ⟨_, List.mem_cons_of_mem _ List.mem_cons_self, rfl, fun _ =>
        accepts_iff_of_store AppSettings.default fun _ _ => rfl⟩

theorem isField_of_mem {field : RecordField Json AppSettings}
    (member : field ∈ (AppSettings.shape Json.loose).fields) :
    ∃ group : Group, group.IsField field := by
  rcases List.mem_cons.mp member with rfl | later
  · exact ⟨.db, rfl, fun _ => accepts_iff_of_store AppSettings.default fun _ _ => rfl⟩
  · obtain rfl := List.mem_singleton.mp later
    exact ⟨.log, rfl, fun _ => accepts_iff_of_store AppSettings.default fun _ _ => rfl⟩

/-- The table that settings have for a group; where there is none it is empty. -/
def tableOf (group : Group) (settings : Json) : Json :=
  (settings.field? group.name).getD (.object [])

theorem decode_empty (group : Group) :
    group.shape.decode Json.loose (.object []) = .ok group.shape.initial := by
  cases group <;> rfl

/-- The settings decode from a table exactly when each group in it does. -/
theorem decode_ok_iff (distinct : (entries.map Prod.fst).Nodup) :
    (∃ settings, AppSettings.decode Json.loose (.object entries) = .ok settings) ↔
      ∀ group : Group, ∃ decoded,
        group.shape.decode Json.loose (group.tableOf (.object entries)) = .ok decoded := by
  refine ((AppSettings.shape_lenient Json.loose).ofEntries_ok_iff distinct).trans ⟨?_, ?_⟩
  · intro fits group
    cases found : entries.lookup group.name with
    | none => exact ⟨_, by simpa [tableOf, Json.field?, found] using group.decode_empty⟩
    | some value =>
        obtain ⟨field, member, isField⟩ := group.exists_isField
        have accepts := fits.accepted field member group.name (by simp [isField.names]) value found
        simpa [tableOf, Json.field?, found] using (isField.accepts value).mp accepts
  · intro decodes
    refine ⟨fun field member name named value found => ?_, fun field member first firstNamed second
      secondNamed _ _ => ?_⟩ <;>
    obtain ⟨group, isField⟩ := isField_of_mem member
    · rw [isField.names, List.mem_singleton] at named
      subst named
      have decodesGroup := decodes group
      simp only [tableOf, Json.field?, found, Option.getD_some] at decodesGroup
      exact (isField.accepts value).mpr decodesGroup
    · rw [isField.names, List.mem_singleton] at firstNamed secondNamed
      exact firstNamed.trans secondNamed.symm

/-- Each group is decoded from its table. -/
theorem decode_tableOf
    (decodes : AppSettings.decode Json.loose (.object entries) = .ok settings) (group : Group) :
    group.shape.decode Json.loose (group.tableOf (.object entries)) = .ok (group.of settings) := by
  have lenient := AppSettings.shape_lenient Json.loose
  have takes : Takes (group.shape.decode Json.loose) group.shape.initial
      ([group.name].findSome? (List.lookup · entries)) (group.of settings) :=
    match group with
    | .db => (AppSettings.db_part Json.loose).ofEntries lenient decodes
    | .log => (AppSettings.log_part Json.loose).ofEntries lenient decodes
  rw [List.findSome?_singleton] at takes
  cases found : entries.lookup group.name with
  | none =>
      rw [found] at takes
      have isDefault : group.of settings = group.shape.initial := takes
      simpa [tableOf, Json.field?, found, isDefault] using group.decode_empty
  | some value =>
      rw [found] at takes
      have reads : group.shape.decode Json.loose value = .ok (group.of settings) := takes
      simpa [tableOf, Json.field?, found] using reads

end Group

end Config

end TablePartitioning
