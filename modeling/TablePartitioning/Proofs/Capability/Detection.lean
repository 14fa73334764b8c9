import TablePartitioning.Proofs.Decoding.Records
import TablePartitioning.Proofs.Decoding.Strict
import TablePartitioning.Proofs.Dialogue.Transcript

/-!
# What a detection asks for and finds

Two kinds of server are known without a call.  The third is asked for its version, and a range of
versions in the middle for rows besides.  `Detects` lists what the answers come to, with the calls
that are made on the way; a detection is all that it lists and nothing else.
-/

namespace TablePartitioning

/-! ## Versions in order -/

/-- A version comes before another: their first numbers decide unless they are equal. -/
def ServerVersion.Before (version : ServerVersion) (other : Nat × Nat) : Prop :=
  version.major < other.1 ∨ version.major = other.1 ∧ version.minor < other.2

instance (version : ServerVersion) (other : Nat × Nat) : Decidable (version.Before other) :=
  inferInstanceAs (Decidable (_ ∨ _))

theorem ServerVersion.atLeast_eq (version : ServerVersion) (major minor : Nat) :
    version.atLeast major minor = !decide (version.Before (major, minor)) := by
  rw [atLeast, compare, bne, Bool.not_eq_eq_eq_not, Bool.not_not]
  rw [Bool.eq_iff_iff, beq_iff_eq, decide_eq_true_eq, Ordering.then_eq_lt]
  simp only [Nat.compare_eq_lt, Nat.compare_eq_eq, Before]

theorem ServerVersion.Before.mono {version : ServerVersion} {other later : Nat × Nat}
    (before : version.Before other)
    (ordered : other.1 < later.1 ∨ other.1 = later.1 ∧ other.2 ≤ later.2) :
    version.Before later := by
  unfold Before at *
  omega

/-! ## Rows that name a plugin -/

namespace Plugin

/-- What a row names: an object by its field, an array by its one item. -/
def Names (row : Json) (name : String) : Prop :=
  match row with
  | .object fields => fields.lookup "Name" = some (.string name)
  | .array items => items = [.string name]
  | _ => False

theorem storeEntries_of_other {other : String} (different : other ≠ "Name") (value : Json)
    (rest : List (String × Json)) (seen : List String) (record : String) :
    shape.storeEntries ((other, value) :: rest) seen record =
      shape.storeEntries rest seen record := by
  apply RecordShape.storeEntries_of_unnamed
  intro field member named
  rw [List.mem_singleton.mp member] at named
  exact different (List.mem_singleton.mp named)

theorem storeEntries_of_absent {entries : List (String × Json)}
    (absent : "Name" ∉ entries.map Prod.fst) (seen : List String) (record : String) :
    shape.storeEntries entries seen record = .ok (seen, record) := by
  induction entries with
  | nil => rfl
  | cons entry rest inductionHypothesis =>
      rw [List.map_cons, List.mem_cons, not_or] at absent
      rw [storeEntries_of_other (Ne.symm absent.1)]
      exact inductionHypothesis absent.2

theorem ofEntries_of_other {other : String} (different : other ≠ "Name") (value : Json)
    (rest : List (String × Json)) :
    shape.ofEntries ((other, value) :: rest) = shape.ofEntries rest := by
  rw [RecordShape.ofEntries, storeEntries_of_other different, ← RecordShape.ofEntries]

theorem ofEntries_of_name {value : Json} {rest : List (String × Json)}
    (absent : "Name" ∉ rest.map Prod.fst) :
    shape.ofEntries (("Name", value) :: rest) = value.asText := by
  have field : shape.fields.find? (·.answersTo "Name") =
      some { name := "Name", aliases := [], required := true,
             store := fun value _ => value.asText } := by
    simp [shape, RecordField.answersTo]
  have complete : shape.missing? ["Name"] = none := by
    simp [RecordShape.missing?, shape]
  rw [RecordShape.ofEntries, RecordShape.storeEntries, field]
  cases read : value.asText with
  | error error => simp [read]
  | ok name => simp [read, storeEntries_of_absent absent, complete]

/-- Rows whose fields have different names decode to what they name. -/
theorem nameOf_object_eq_ok_iff {fields : List (String × Json)}
    (distinct : (fields.map Prod.fst).Nodup) {name : String} :
    nameOf (.object fields) = .ok name ↔ Names (.object fields) name := by
  show shape.ofEntries fields = .ok name ↔ fields.lookup "Name" = some (.string name)
  induction fields with
  | nil =>
      constructor
      · intro impossible
        cases impossible
      · intro impossible
        cases impossible
  | cons entry rest inductionHypothesis =>
      rcases entry with ⟨other, value⟩
      rw [List.map_cons, List.nodup_cons] at distinct
      by_cases same : other = "Name"
      · subst same
        rw [ofEntries_of_name distinct.1, Json.asText_eq_ok_iff, List.lookup_cons_self,
          Option.some.injEq]
      · have apart : ("Name" == other) = false := by
          rw [beq_eq_false_iff_ne]
          exact Ne.symm same
        rw [ofEntries_of_other same, inductionHypothesis distinct.2, List.lookup_cons, apart]

theorem nameOf_array_eq_ok_iff {items : List Json} {name : String} :
    nameOf (.array items) = .ok name ↔ Names (.array items) name := by
  show shape.ofItems Json.strict items = .ok name ↔ items = [.string name]
  rcases items with _ | ⟨first, _ | ⟨second, rest⟩⟩
  · simp [RecordShape.ofItems, RecordShape.storeItems, shape]
  · rw [List.cons.injEq, and_iff_left rfl, ← Json.asText_eq_ok_iff]
    cases read : first.asText with
    | error error => simp [RecordShape.ofItems, RecordShape.storeItems, shape, read]
    | ok text => simp [RecordShape.ofItems, RecordShape.storeItems, shape, read]
  · cases read : first.asText with
    | error error => simp [RecordShape.ofItems, RecordShape.storeItems, shape, read]
    | ok text => simp [RecordShape.ofItems, RecordShape.storeItems, shape, read, Json.strict]

/-- The fields of an object have different names, as those of rows do. -/
def Distinct : Json → Prop
  | .object fields => (fields.map Prod.fst).Nodup
  | _ => True

/-- A row decodes to what it names, and to nothing where it names nothing. -/
theorem nameOf_eq_ok_iff {row : Json} {name : String} (distinct : Distinct row) :
    nameOf row = .ok name ↔ Names row name := by
  have single {other : Json} (contents : Json.strict.contents other = .single) :
      nameOf other ≠ .ok name := by
    rw [nameOf, RecordShape.decode, contents]
    intro impossible
    cases impossible
  cases row with
  | object fields => exact nameOf_object_eq_ok_iff distinct
  | array items => exact nameOf_array_eq_ok_iff
  | null => exact iff_of_false (single rfl) id
  | bool value => exact iff_of_false (single rfl) id
  | integer value => exact iff_of_false (single rfl) id
  | float value => exact iff_of_false (single rfl) id
  | string value => exact iff_of_false (single rfl) id

end Plugin

/-! ## Calls and their failures -/

/-- The failure that a call ends an operation with, by the statement that stands for the call. -/
def Utterance.failure? : Utterance → Option Failure
  | .version (.error cause) => some (.statement "SELECT version()" cause)
  | .query sql (.error cause) => some (.statement sql cause)
  | .execute sql (.error cause) => some (.statement sql cause)
  | _ => none

namespace Held

/-- The calls of a dialogue. -/
def calls {Result State : Type} (held : Held Result State) : List Utterance :=
  held.transcript.filter Utterance.isCall

theorem calls_after {Result State : Type} (said : List Utterance) (held : Held Result State) :
    (held.after said).calls = said.filter Utterance.isCall ++ held.calls := by
  rw [calls, transcript_after, List.filter_append]
  rfl

end Held

namespace Detection

variable {State : Type} {server : Server State} {state : State}

/-! ## What is asked besides the version -/

/-- A question for rows that a range of versions is asked, and the dialect that the rows tell of. -/
structure Inquiry where
  since : Nat × Nat
  before : Nat × Nat
  sql : String
  dialect : Dialect
  Told : List Json → Prop

/-- Any row tells that the variable exists. -/
def variableInquiry : Inquiry where
  since := (5, 1)
  before := (5, 6)
  sql := "SHOW VARIABLES LIKE 'have_partitioning'"
  dialect := .mysqlLegacy
  Told rows := rows ≠ []

/-- The row of one plugin tells that it is loaded, wherever it stands among others. -/
def pluginInquiry : Inquiry where
  since := (5, 6)
  before := (8, 0)
  sql := "SHOW PLUGINS"
  dialect := .mysqlPlugin
  Told rows := ∃ row ∈ rows, Plugin.nameOf row = .ok "partition"

/-- The questions for rows. -/
def inquiries : List Inquiry := [variableInquiry, pluginInquiry]

/-- What the answers of a server come to, with the calls that bring them. -/
inductive Detects (server : Server State) (state : State) :
    Backend → List Utterance → Except Failure Support → Prop where
  | postgres : Detects server state .postgres [] (.ok (.supported .postgresDeclarative))
  | sqlite : Detects server state .sqlite [] (.ok (.unsupported none))
  | unanswered {cause : DbError} (answer : (server.version state).1 = .error cause) :
      Detects server state .mysql [.version (.error cause)]
        (.error (.statement "SELECT version()" cause))
  | unreadable {text : String} (answer : (server.version state).1 = .ok text)
      (unread : ServerVersion.ofText? text = none) :
      Detects server state .mysql [.version (.ok text)] (.ok (.unsupported none))
  | early {text : String} {version : ServerVersion}
      (answer : (server.version state).1 = .ok text)
      (read : ServerVersion.ofText? text = some version) (early : version.Before (5, 1)) :
      Detects server state .mysql [.version (.ok text)] (.ok (.unsupported none))
  | late {text : String} {version : ServerVersion}
      (answer : (server.version state).1 = .ok text)
      (read : ServerVersion.ofText? text = some version) (late : ¬ version.Before (8, 0)) :
      Detects server state .mysql [.version (.ok text)] (.ok (.supported .mysqlNative))
  | refused {text : String} {version : ServerVersion} {inquiry : Inquiry} {cause : DbError}
      (answer : (server.version state).1 = .ok text)
      (read : ServerVersion.ofText? text = some version) (asked : inquiry ∈ inquiries)
      (since : ¬ version.Before inquiry.since) (before : version.Before inquiry.before)
      (refusal : (server.query inquiry.sql (server.version state).2).1 = .error cause) :
      Detects server state .mysql [.version (.ok text), .query inquiry.sql (.error cause)]
        (.error (.statement inquiry.sql cause))
  | told {text : String} {version : ServerVersion} {inquiry : Inquiry} {rows : List Json}
      (answer : (server.version state).1 = .ok text)
      (read : ServerVersion.ofText? text = some version) (asked : inquiry ∈ inquiries)
      (since : ¬ version.Before inquiry.since) (before : version.Before inquiry.before)
      (found : (server.query inquiry.sql (server.version state).2).1 = .ok rows)
      (told : inquiry.Told rows) :
      Detects server state .mysql [.version (.ok text), .query inquiry.sql (.ok rows)]
        (.ok (.supported inquiry.dialect))
  | untold {text : String} {version : ServerVersion} {inquiry : Inquiry} {rows : List Json}
      (answer : (server.version state).1 = .ok text)
      (read : ServerVersion.ofText? text = some version) (asked : inquiry ∈ inquiries)
      (since : ¬ version.Before inquiry.since) (before : version.Before inquiry.before)
      (found : (server.query inquiry.sql (server.version state).2).1 = .ok rows)
      (untold : ¬ inquiry.Told rows) :
      Detects server state .mysql [.version (.ok text), .query inquiry.sql (.ok rows)]
        (.ok (.unsupported (some inquiry.dialect)))

/-! ## How the version decides -/

theorem byVersion_unreadable {text : String} (unread : ServerVersion.ofText? text = none) :
    byVersion text = .note (.unreadableVersion text) (.done (.ok (.unsupported none))) := by
  rw [byVersion, unread]

/-- The ranges of versions follow one another, so that at most two comparisons decide. -/
theorem byVersion_read {text : String} {version : ServerVersion}
    (read : ServerVersion.ofText? text = some version) :
    byVersion text =
      if version.Before (5, 1) then conclude text (.unsupported none)
      else if version.Before (5, 6) then ask text variableSql judgeVariables
      else if version.Before (8, 0) then ask text pluginsSql judgePlugins
      else conclude text (.supported .mysqlNative) := by
  have early : version.Before (5, 1) → version.Before (5, 6) := fun first =>
    first.mono (by decide)
  have middle : version.Before (5, 6) → version.Before (8, 0) := fun later =>
    later.mono (by decide)
  simp only [byVersion, read, ServerVersion.atLeast_eq]
  by_cases late : version.Before (8, 0)
  · by_cases later : version.Before (5, 6)
    · by_cases first : version.Before (5, 1)
      · simp [late, later, first]
      · simp [late, later, first]
    · have notFirst : ¬ version.Before (5, 1) := fun first => later (early first)
      simp [late, later, notFirst]
  · have notLater : ¬ version.Before (5, 6) := fun later => late (middle later)
    have notFirst : ¬ version.Before (5, 1) := fun first => notLater (early first)
    simp [late, notLater, notFirst]

/-- What a question makes of the rows that it brings. -/
structure Inquiry.Judges (inquiry : Inquiry) (judge : List Json → Support) : Prop where
  told : ∀ rows, inquiry.Told rows → judge rows = .supported inquiry.dialect
  untold : ∀ rows, ¬ inquiry.Told rows → judge rows = .unsupported (some inquiry.dialect)

theorem variableInquiry_judges : variableInquiry.Judges judgeVariables := by
  constructor
  case told =>
    intro rows told
    have filled : rows.isEmpty = false := List.isEmpty_eq_false_iff.mpr told
    simp [judgeVariables, filled, variableInquiry]
  case untold =>
    intro rows untold
    have empty : rows = [] := Classical.not_not.mp untold
    rw [empty]
    rfl

theorem isPartition_iff {row : Json} :
    Plugin.isPartition row = true ↔ Plugin.nameOf row = .ok "partition" := by
  unfold Plugin.isPartition
  cases Plugin.nameOf row with
  | error error => simp
  | ok name => simp

theorem pluginInquiry_judges : pluginInquiry.Judges judgePlugins := by
  have loaded (rows : List Json) :
      rows.any Plugin.isPartition = true ↔ pluginInquiry.Told rows := by
    simp only [List.any_eq_true, isPartition_iff, pluginInquiry]
  constructor
  case told =>
    intro rows told
    rw [judgePlugins, if_pos ((loaded rows).mpr told)]
    rfl
  case untold =>
    intro rows untold
    rw [judgePlugins, if_neg (fun found => untold ((loaded rows).mp found))]
    rfl

/-- A version in the range of a question is asked that question. -/
theorem byVersion_of_inquiry {text : String} {version : ServerVersion} {inquiry : Inquiry}
    (read : ServerVersion.ofText? text = some version) (asked : inquiry ∈ inquiries)
    (since : ¬ version.Before inquiry.since) (before : version.Before inquiry.before) :
    ∃ judge, byVersion text = ask text inquiry.sql judge ∧ inquiry.Judges judge := by
  rw [byVersion_read read]
  rcases List.mem_cons.mp asked with rfl | later
  · have notFirst : ¬ version.Before (5, 1) := since
    have second : version.Before (5, 6) := before
    refine ⟨judgeVariables, ?_, variableInquiry_judges⟩
    rw [if_neg notFirst, if_pos second]
    rfl
  · cases List.mem_singleton.mp later
    have notSecond : ¬ version.Before (5, 6) := since
    have third : version.Before (8, 0) := before
    have notFirst : ¬ version.Before (5, 1) := fun first => notSecond (first.mono (by decide))
    refine ⟨judgePlugins, ?_, pluginInquiry_judges⟩
    rw [if_neg notFirst, if_neg notSecond, if_pos third]
    rfl

/-! ## What is held -/

theorem conclude_run (text : String) (support : Support) (server : Server State) (state : State) :
    ((conclude text support).run server state).calls = [] ∧
      ((conclude text support).run server state).result = .ok support := by
  unfold conclude
  rw [Dialogue.run_note]
  exact ⟨rfl, rfl⟩

theorem ask_run (text sql : String) (judge : List Json → Support) (server : Server State)
    (state : State) :
    ((ask text sql judge).run server state).calls = [.query sql (server.query sql state).1] ∧
      ((ask text sql judge).run server state).result =
        match (server.query sql state).1 with
        | .error cause => .error (.statement sql cause)
        | .ok rows => .ok (judge rows) := by
  rw [ask, Dialogue.run_query, Held.calls_after, Held.result_after]
  cases (server.query sql state).1 with
  | error cause => exact ⟨rfl, rfl⟩
  | ok rows =>
      have concluded := conclude_run text (judge rows) server (server.query sql state).2
      rw [concluded.1, concluded.2]
      exact ⟨rfl, rfl⟩

theorem detect_run_unanswered {cause : DbError} (answer : (server.version state).1 = .error cause) :
    ((detect .mysql).run server state).calls = [.version (.error cause)] ∧
      ((detect .mysql).run server state).result = .error (.statement versionSql cause) := by
  rw [detect, Dialogue.run_version, answer]
  exact ⟨rfl, rfl⟩

theorem detect_run_answered {text : String} (answer : (server.version state).1 = .ok text) :
    ((detect .mysql).run server state).calls =
        .version (.ok text) :: ((byVersion text).run server (server.version state).2).calls ∧
      ((detect .mysql).run server state).result =
        ((byVersion text).run server (server.version state).2).result := by
  rw [detect, Dialogue.run_version, Held.calls_after, Held.result_after, answer]
  exact ⟨rfl, rfl⟩

/-- Where a detection ends with the version, or goes on from it. -/
theorem detect_run_concluded {text : String} {support : Support}
    (answer : (server.version state).1 = .ok text)
    (concluded : byVersion text = conclude text support) :
    ((detect .mysql).run server state).calls = [.version (.ok text)] ∧
      ((detect .mysql).run server state).result = .ok support := by
  have answered := detect_run_answered answer
  have ended := conclude_run text support server (server.version state).2
  rw [answered.1, answered.2, concluded, ended.1, ended.2]
  exact ⟨rfl, rfl⟩

theorem detect_run_asked {text sql : String} {judge : List Json → Support}
    (answer : (server.version state).1 = .ok text)
    (asked : byVersion text = ask text sql judge) :
    ((detect .mysql).run server state).calls =
        [.version (.ok text), .query sql (server.query sql (server.version state).2).1] ∧
      ((detect .mysql).run server state).result =
        match (server.query sql (server.version state).2).1 with
        | .error cause => .error (.statement sql cause)
        | .ok rows => .ok (judge rows) := by
  have answered := detect_run_answered answer
  have ended := ask_run text sql judge server (server.version state).2
  rw [answered.1, answered.2, asked, ended.1, ended.2]
  exact ⟨rfl, rfl⟩

theorem Detects.held {backend : Backend} {calls : List Utterance}
    {result : Except Failure Support} (detects : Detects server state backend calls result) :
    ((detect backend).run server state).calls = calls ∧
      ((detect backend).run server state).result = result := by
  cases detects with
  | postgres => exact ⟨rfl, rfl⟩
  | sqlite => exact ⟨rfl, rfl⟩
  | unanswered answer => exact detect_run_unanswered answer
  | unreadable answer unread =>
      have answered := detect_run_answered answer
      rw [answered.1, answered.2, byVersion_unreadable unread]
      exact ⟨rfl, rfl⟩
  | early answer read early =>
      apply detect_run_concluded answer
      rw [byVersion_read read, if_pos early]
  | late answer read late =>
      have notSecond := fun second : ServerVersion.Before _ (5, 6) =>
        late (second.mono (by decide))
      have notFirst := fun first : ServerVersion.Before _ (5, 1) =>
        late (first.mono (by decide))
      apply detect_run_concluded answer
      rw [byVersion_read read, if_neg notFirst, if_neg notSecond, if_neg late]
  | refused answer read asked since before refusal =>
      obtain ⟨judge, asks, _⟩ := byVersion_of_inquiry read asked since before
      have ended := detect_run_asked answer asks
      rw [ended.1, ended.2, refusal]
      exact ⟨rfl, rfl⟩
  | told answer read asked since before found told =>
      obtain ⟨judge, asks, judges⟩ := byVersion_of_inquiry read asked since before
      have ended := detect_run_asked answer asks
      rw [ended.1, ended.2, found, ← judges.told _ told]
      exact ⟨rfl, rfl⟩
  | untold answer read asked since before found untold =>
      obtain ⟨judge, asks, judges⟩ := byVersion_of_inquiry read asked since before
      have ended := detect_run_asked answer asks
      rw [ended.1, ended.2, found, ← judges.untold _ untold]
      exact ⟨rfl, rfl⟩

/-- Every detection is listed. -/
theorem exists_detects (server : Server State) (state : State) (backend : Backend) :
    ∃ calls result, Detects server state backend calls result := by
  cases backend with
  | postgres => exact ⟨_, _, .postgres⟩
  | sqlite => exact ⟨_, _, .sqlite⟩
  | mysql =>
      cases answer : (server.version state).1 with
      | error cause => exact ⟨_, _, .unanswered answer⟩
      | ok text =>
          cases read : ServerVersion.ofText? text with
          | none => exact ⟨_, _, .unreadable answer read⟩
          | some version =>
              have asks (inquiry : Inquiry) (asked : inquiry ∈ inquiries)
                  (since : ¬ version.Before inquiry.since)
                  (before : version.Before inquiry.before) :
                  ∃ calls result, Detects server state .mysql calls result := by
                cases found : (server.query inquiry.sql (server.version state).2).1 with
                | error cause => exact ⟨_, _, .refused answer read asked since before found⟩
                | ok rows =>
                    by_cases told : inquiry.Told rows
                    · exact ⟨_, _, .told answer read asked since before found told⟩
                    · exact ⟨_, _, .untold answer read asked since before found told⟩
              by_cases first : version.Before (5, 1)
              · exact ⟨_, _, .early answer read first⟩
              · by_cases second : version.Before (5, 6)
                · exact asks variableInquiry List.mem_cons_self first second
                · by_cases third : version.Before (8, 0)
                  · exact asks pluginInquiry (by simp [inquiries]) second third
                  · exact ⟨_, _, .late answer read third⟩

theorem Detects.failed_iff {backend : Backend} {calls : List Utterance}
    {result : Except Failure Support} (detects : Detects server state backend calls result)
    (failure : Failure) :
    result = .error failure ↔ ∃ call ∈ calls, call.failure? = some failure := by
  cases detects with
  | unanswered answer => simp [Utterance.failure?]
  | refused answer read asked since before refusal => simp [Utterance.failure?]
  | _ => simp [Utterance.failure?]

/-- A detection fails for a statement that the server refuses and for nothing else. -/
theorem detect_failed {backend : Backend} {failure : Failure}
    (failed : ((detect backend).run server state).result = .error failure) :
    ∃ sql cause, failure = .statement sql cause := by
  obtain ⟨calls, result, detects⟩ := exists_detects server state backend
  rw [detects.held.2] at failed
  cases detects with
  | unanswered answer =>
      cases failed
      exact ⟨_, _, rfl⟩
  | refused answer read asked since before refusal =>
      cases failed
      exact ⟨_, _, rfl⟩
  | _ => cases failed

/-- A detection makes the calls that are listed for the answers of its server and comes to what is
listed with them; it fails exactly where a call of it fails, for the statement of that call.  Rows
are read by the name that they give, and those that give none are no rows of a plugin. -/
theorem detect_listed (server : Server State) (state : State) (backend : Backend) :
    let held := (detect backend).run server state
    (∀ calls result, Detects server state backend calls result ↔
      held.calls = calls ∧ held.result = result) ∧
    (∀ failure, held.result = .error failure ↔
      ∃ call ∈ held.calls, call.failure? = some failure) ∧
    ∀ row name, Plugin.Distinct row → (Plugin.nameOf row = .ok name ↔ Plugin.Names row name) := by
  intro held
  obtain ⟨calls, result, detects⟩ := exists_detects server state backend
  obtain ⟨called, ended⟩ := detects.held
  refine ⟨?_, ?_, ?_⟩
  · intro otherCalls otherResult
    constructor
    · exact Detects.held
    · rintro ⟨rfl, rfl⟩
      rw [called, ended]
      exact detects
  · intro failure
    rw [called, ended]
    exact detects.failed_iff failure
  · intro row name distinct
    exact Plugin.nameOf_eq_ok_iff distinct

end Detection

end TablePartitioning
