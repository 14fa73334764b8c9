import TablePartitioning.Proofs.Config.Fields
import TablePartitioning.Proofs.Decoding.Written

/-!
# Settings that are written and read

Settings are read again from the text that is written for them.  An object gives settings when each
of its fields decodes on its own and none is spelled twice; what it does not give has its default,
and so in the objects that are its fields.  An array is read as the object of its items under the
names of the fields.
-/

namespace TablePartitioning

open Json RecordField RecordShape

/-! ## Single settings -/

theorem text_reads (text : String) : strict.text (.string text) = .ok text := rfl

theorem flag_reads (flag : Bool) : strict.flag (.bool flag) = .ok flag := rfl

theorem optional_reads (text? : Option String) :
    strict.optional strict.text (ofOption .string text?) = .ok text? := by
  cases text? <;> rfl

theorem natural_reads {bound number : Nat} (expected : String) (below : number < bound) :
    strict.natural bound expected (.integer number) = .ok number :=
  (asNatural_inverts bound expected).read_write below

theorem named_reads {α : Type} {ofName? : String → Option α} {word : String} {taken : α}
    (unknown : String) (known : ofName? word = some taken) :
    strict.named ofName? unknown (.string word) = .ok taken := by
  simp only [Source.named, text_reads, known]

theorem LogFormat.ofName?_name (format : LogFormat) : ofName? format.name = some format := by
  cases format <;> decide

theorem LogLevel.ofText?_word (level : LogLevel) : ofText? level.word = some level := by
  cases level <;> decide

theorem LogFilter.ofWord?_word (filter : LogFilter) : ofWord? filter.word = some filter := by
  cases filter with
  | off => decide
  | upTo level => cases level <;> decide

theorem ordered_optional (text? : Option String) :
    (ofOption .string text?).ordered = ofOption .string text? := by
  cases text? <;> rfl

theorem exact_optional {depth : Nat} (text? : Option String) :
    Exact depth (ofOption .string text?) := by
  cases text? with
  | none => exact .null
  | some text => exact .string text

theorem exact_natural {depth number bits : Nat} (narrow : bits ≤ 64)
    (below : number < Word.count bits) : Exact depth (.integer number) := by
  have bounded : Word.count bits ≤ Word.count 64 := Nat.pow_le_pow_right (by decide) narrow
  exact .integer (isWideInteger_of_unsigned (Nat.lt_of_lt_of_le below bounded))

/-! ## The settings of the log -/

namespace LogSettings

variable {given : List String → Option Json} {settings other : LogSettings}

/-- The names of the fields in the order of their declaration. -/
def names : List (List String) :=
  [["format"], ["level"], ["directives"], ["ansi"], ["with_filename"], ["with_line_number"]]

/-- The fields that settings are written with. -/
def cells (settings : LogSettings) : List (String × Json) := KeyPath.fieldsOf settings.toJson

theorem TakenFrom.unique {source : Source Json} (first : settings.TakenFrom source given)
    (second : other.TakenFrom source given) : settings = other := by
  cases settings
  cases other
  rw [mk.injEq]
  exact ⟨first.format.unique second.format, first.level.unique second.level,
    first.directives.unique second.directives, first.ansi.unique second.ansi,
    first.withFilename.unique second.withFilename,
    first.withLineNumber.unique second.withLineNumber⟩

theorem settled :
    Settled (shape strict) fun given settings => settings.TakenFrom strict given where
  lenient := shape_lenient strict
  taken _ _ distinct decodes :=
    takenFrom_of_decode (readable_object distinct) decodes fun _ _ => rfl
  unique _ _ _ first second := first.unique second

theorem orderedFields_cells (settings : LogSettings) :
    orderedFields settings.cells = settings.cells := by
  simp [cells, toJson, KeyPath.fieldsOf, orderedFields, ordered, ordered_optional]

theorem exact_cells {depth : Nat} (settings : LogSettings) :
    Exact (depth + 1) (.object settings.cells) := by
  apply Exact.object
  simp only [cells, toJson, KeyPath.fieldsOf, List.forall_mem_cons]
  exact ⟨.string _, .string _, exact_optional _, .bool _, .bool _, .bool _, by simp⟩

theorem ofEntries_cells (settings : LogSettings) :
    (shape strict).ofEntries settings.cells = .ok settings := by
  apply (shape_lenient strict).ofEntries_of_items rfl
  refine storeItems_of_reads (fun _ _ => rfl) (named_reads _ settings.format.ofName?_name) ?_
  refine storeItems_of_reads (fun _ _ => rfl) (named_reads _ settings.level.ofText?_word) ?_
  refine storeItems_of_reads (fun _ _ => rfl) (optional_reads settings.directives) ?_
  refine storeItems_of_reads (fun _ _ => rfl) (flag_reads settings.ansi) ?_
  refine storeItems_of_reads (fun _ _ => rfl) (flag_reads settings.withFilename) ?_
  refine storeItems_of_reads (fun _ _ => rfl) (flag_reads settings.withLineNumber) ?_
  rfl

theorem writtenAs (settings : LogSettings) :
    WrittenAs (shape strict) settings settings.cells where
  distinct := by simp [cells, toJson, KeyPath.fieldsOf]
  exact := settings.exact_cells
  decodes := by rw [orderedFields_cells, ofEntries_cells]

theorem readsRecord :
    ReadsRecord names (fun given settings => TakenFrom strict given settings) (fun _ => True)
      toJson (decode strict) :=
  settled.readsRecord (fun _ _ _ _ _ _ _ => trivial) trivial fun settings _ =>
    ⟨_, rfl, settings.writtenAs⟩

end LogSettings

/-! ## The settings of the database connection -/

namespace DbSettings

variable {given : List String → Option Json} {settings other : DbSettings}

/-- The names of the fields in the order of their declaration. -/
def names : List (List String) := [
  ["url", "database_url", "dsn"], ["schema"], ["sqlx_logging"], ["sqlx_logging_level"],
  ["max_connections"], ["min_connections"], ["connect_timeout_seconds"],
  ["acquire_timeout_seconds"], ["slow_statement_threshold_ms"]]

/-- The numbers of the settings fit 32 and 64 bits. -/
structure InRange (settings : DbSettings) : Prop where
  maxConnections : settings.maxConnections < Word.count 32
  minConnections : settings.minConnections < Word.count 32
  connectTimeoutSeconds : settings.connectTimeoutSeconds < Word.count 64
  acquireTimeoutSeconds : settings.acquireTimeoutSeconds < Word.count 64
  slowStatementMilliseconds : settings.slowStatementMilliseconds < Word.count 64

/-- The fields that settings are written with. -/
def cells (settings : DbSettings) : List (String × Json) := KeyPath.fieldsOf settings.toJson

theorem TakenFrom.unique {source : Source Json} (first : settings.TakenFrom source given)
    (second : other.TakenFrom source given) : settings = other := by
  cases settings
  cases other
  rw [mk.injEq]
  exact ⟨first.url.unique second.url, first.schema.unique second.schema,
    first.sqlLogging.unique second.sqlLogging,
    first.sqlLoggingLevel.unique second.sqlLoggingLevel,
    first.maxConnections.unique second.maxConnections,
    first.minConnections.unique second.minConnections,
    first.connectTimeoutSeconds.unique second.connectTimeoutSeconds,
    first.acquireTimeoutSeconds.unique second.acquireTimeoutSeconds,
    first.slowStatementMilliseconds.unique second.slowStatementMilliseconds⟩

theorem settled :
    Settled (shape strict) fun given settings => settings.TakenFrom strict given where
  lenient := shape_lenient strict
  taken _ _ distinct decodes :=
    takenFrom_of_decode (readable_object distinct) decodes fun _ _ => rfl
  unique _ _ _ first second := first.unique second

theorem orderedFields_cells (settings : DbSettings) :
    orderedFields settings.cells = settings.cells := by
  simp [cells, toJson, KeyPath.fieldsOf, orderedFields, ordered, ordered_optional]

theorem exact_cells {depth : Nat} (inRange : settings.InRange) :
    Exact (depth + 1) (.object settings.cells) := by
  apply Exact.object
  simp only [cells, toJson, KeyPath.fieldsOf, List.forall_mem_cons]
  exact ⟨.string _, exact_optional _, .bool _, .string _,
    exact_natural (by decide) inRange.maxConnections,
    exact_natural (by decide) inRange.minConnections,
    exact_natural (by decide) inRange.connectTimeoutSeconds,
    exact_natural (by decide) inRange.acquireTimeoutSeconds,
    exact_natural (by decide) inRange.slowStatementMilliseconds, by simp⟩

theorem ofEntries_cells (inRange : settings.InRange) :
    (shape strict).ofEntries settings.cells = .ok settings := by
  apply (shape_lenient strict).ofEntries_of_items rfl
  refine storeItems_of_reads (fun _ _ => rfl) (text_reads settings.url) ?_
  refine storeItems_of_reads (fun _ _ => rfl) (optional_reads settings.schema) ?_
  refine storeItems_of_reads (fun _ _ => rfl) (flag_reads settings.sqlLogging) ?_
  refine storeItems_of_reads (fun _ _ => rfl)
    (named_reads _ settings.sqlLoggingLevel.ofWord?_word) ?_
  refine storeItems_of_reads (fun _ _ => rfl) (natural_reads _ inRange.maxConnections) ?_
  refine storeItems_of_reads (fun _ _ => rfl) (natural_reads _ inRange.minConnections) ?_
  refine storeItems_of_reads (fun _ _ => rfl) (natural_reads _ inRange.connectTimeoutSeconds) ?_
  refine storeItems_of_reads (fun _ _ => rfl) (natural_reads _ inRange.acquireTimeoutSeconds) ?_
  refine storeItems_of_reads (fun _ _ => rfl) (natural_reads _ inRange.slowStatementMilliseconds) ?_
  rfl

theorem writtenAs (inRange : settings.InRange) :
    WrittenAs (shape strict) settings settings.cells where
  distinct := by simp [cells, toJson, KeyPath.fieldsOf]
  exact := exact_cells inRange
  decodes := by rw [orderedFields_cells, ofEntries_cells inRange]

theorem inRange_default : default.InRange := ⟨by decide, by decide, by decide, by decide, by decide⟩

theorem preserves_inRange : (shape strict).Preserves InRange := by
  have below (bound : Nat) (expected : String) (value : Json) (number : Nat)
      (reads : strict.natural bound expected value = .ok number) : number < bound :=
    ((asNatural_inverts bound expected value number).mp reads).2
  simp only [Preserves, shape, List.forall_mem_cons, forall_map_eq_ok]
  refine ⟨?_, ?_, ?_, ?_, ?_, ?_, ?_, ?_, ?_, by simp⟩
  · exact fun _ _ _ _ before => { before with }
  · exact fun _ _ _ _ before => { before with }
  · exact fun _ _ _ _ before => { before with }
  · exact fun _ _ _ _ before => { before with }
  · exact fun _ _ _ reads before => { before with maxConnections := below _ _ _ _ reads }
  · exact fun _ _ _ reads before => { before with minConnections := below _ _ _ _ reads }
  · exact fun _ _ _ reads before => { before with connectTimeoutSeconds := below _ _ _ _ reads }
  · exact fun _ _ _ reads before => { before with acquireTimeoutSeconds := below _ _ _ _ reads }
  · exact fun _ _ _ reads before =>
      { before with slowStatementMilliseconds := below _ _ _ _ reads }

theorem readsRecord :
    ReadsRecord names (fun given settings => TakenFrom strict given settings) InRange toJson
      (decode strict) :=
  settled.readsRecord preserves_inRange inRange_default fun _ inRange =>
    ⟨_, rfl, writtenAs inRange⟩

end DbSettings

/-! ## All settings -/

namespace AppSettings

variable {given : List String → Option Json} {settings other : AppSettings}

/-- The names of the fields in the order of their declaration. -/
def names : List (List String) := [["db"], ["log"]]

/-- The numbers of the settings fit. -/
def InRange (settings : AppSettings) : Prop := settings.db.InRange

/-- Settings that are read from what is given for their groups, and those of a group from the
fields of it. -/
structure TakenFrom (given : List String → Option Json) (settings : AppSettings) : Prop where
  db : Takes (DbSettings.decode strict) default.db (given ["db"]) settings.db
  log : Takes (LogSettings.decode strict) default.log (given ["log"]) settings.log
  dbFields : ∀ entries, given ["db"] = some (.object entries) → (entries.map Prod.fst).Nodup →
    settings.db.TakenFrom strict (givenBy entries)
  logFields : ∀ entries, given ["log"] = some (.object entries) → (entries.map Prod.fst).Nodup →
    settings.log.TakenFrom strict (givenBy entries)

/-- The fields that settings are written with. -/
def cells (settings : AppSettings) : List (String × Json) := KeyPath.fieldsOf settings.toJson

theorem TakenFrom.unique (first : settings.TakenFrom given) (second : other.TakenFrom given) :
    settings = other := by
  cases settings
  cases other
  rw [mk.injEq]
  exact ⟨first.db.unique second.db, first.log.unique second.log⟩

theorem settled : Settled (shape strict) fun given settings => settings.TakenFrom given where
  lenient := shape_lenient strict
  taken entries settings distinct decodes := by
    have db := (db_part strict).ofEntries (shape_lenient strict) decodes
    have log := (log_part strict).ofEntries (shape_lenient strict) decodes
    refine ⟨db, log, fun inner isObject innerDistinct => ?_, fun inner isObject innerDistinct => ?_⟩
    · rw [givenBy] at isObject
      rw [isObject] at db
      exact DbSettings.settled.taken inner settings.db innerDistinct db
    · rw [givenBy] at isObject
      rw [isObject] at log
      exact LogSettings.settled.taken inner settings.log innerDistinct log
  unique _ _ _ first second := first.unique second

theorem writtenAs (inRange : settings.InRange) :
    WrittenAs (shape strict) settings settings.cells where
  distinct := by simp [cells, toJson, KeyPath.fieldsOf]
  exact := by
    apply Exact.object
    simp only [cells, toJson, KeyPath.fieldsOf, List.forall_mem_cons]
    exact ⟨DbSettings.exact_cells inRange, settings.log.exact_cells, by simp⟩
  decodes := by
    apply (shape_lenient strict).ofEntries_of_items rfl
    refine storeItems_of_reads (fun _ _ => rfl)
      (DbSettings.settled.decode_ordered (DbSettings.writtenAs inRange)) ?_
    refine storeItems_of_reads (fun _ _ => rfl)
      (LogSettings.settled.decode_ordered settings.log.writtenAs) ?_
    rfl

theorem preserves_inRange : (shape strict).Preserves InRange := by
  simp only [Preserves, shape, List.forall_mem_cons, forall_map_eq_ok]
  refine ⟨?_, ?_, by simp⟩
  · exact fun _ _ _ reads _ =>
      DbSettings.preserves_inRange.decode DbSettings.inRange_default reads
  · exact fun _ _ _ _ before => before

theorem readsRecord :
    ReadsRecord names (fun given settings => TakenFrom given settings) InRange toJson
      (decode strict) :=
  settled.readsRecord preserves_inRange DbSettings.inRange_default fun _ inRange =>
    ⟨_, rfl, writtenAs inRange⟩

end AppSettings

/-- All settings are read from what is written for them, and from objects and arrays. -/
theorem settings_written :
    ReadsRecord LogSettings.names
        (fun given settings => LogSettings.TakenFrom strict given settings) (fun _ => True)
        LogSettings.toJson (LogSettings.decode strict) ∧
      ReadsRecord DbSettings.names
        (fun given settings => DbSettings.TakenFrom strict given settings) DbSettings.InRange
        DbSettings.toJson (DbSettings.decode strict) ∧
      ReadsRecord AppSettings.names
        (fun given settings => AppSettings.TakenFrom given settings) AppSettings.InRange
        AppSettings.toJson (AppSettings.decode strict) :=
  ⟨LogSettings.readsRecord, DbSettings.readsRecord, AppSettings.readsRecord⟩

end TablePartitioning
