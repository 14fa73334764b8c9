import TablePartitioning.Capability.Detection

/-!
# What is said in a dialogue

`run_bind` says that a dialogue made of two is held as the two are held one after the other, so
that a transcript can be taken apart where the dialogue was put together.  `SaysOnly` bounds what a
dialogue may say with any server at all, and `EndsWith` what may come of it.
-/

namespace TablePartitioning

/-- The statement that the server was asked to execute, with its answer. -/
def Utterance.execution? : Utterance → Option (String × Except DbError Unit)
  | .execute sql answer => some (sql, answer)
  | _ => none

namespace Held

/-- What was held after something had been said already. -/
def after (said : List Utterance) (held : Held Result State) : Held Result State :=
  { held with transcript := said ++ held.transcript }

@[simp]
theorem result_after (said : List Utterance) (held : Held Result State) :
    (held.after said).result = held.result := rfl

@[simp]
theorem state_after (said : List Utterance) (held : Held Result State) :
    (held.after said).state = held.state := rfl

@[simp]
theorem transcript_after (said : List Utterance) (held : Held Result State) :
    (held.after said).transcript = said ++ held.transcript := rfl

@[simp]
theorem after_nil (held : Held Result State) : held.after [] = held := rfl

theorem after_after (first second : List Utterance) (held : Held Result State) :
    (held.after second).after first = held.after (first ++ second) := by
  simp [after]

/-- The statements that the server was asked to execute, with its answers. -/
def executions (held : Held Result State) : List (String × Except DbError Unit) :=
  held.transcript.filterMap Utterance.execution?

theorem executions_after (said : List Utterance) (held : Held Result State) :
    (held.after said).executions = said.filterMap Utterance.execution? ++ held.executions := by
  simp [executions]

end Held

namespace Dialogue

variable {First Second Result State : Type} {server : Server State}

/-! ## Holding a dialogue that is made of two -/

theorem runAfter_eq (server : Server State) (dialogue : Dialogue Result) (state : State)
    (said : List Utterance) :
    dialogue.runAfter server state said = (dialogue.run server state).after said.reverse := by
  induction dialogue generalizing state said with
  | done result => simp [run, runAfter, Held.after]
  | version next inductionHypothesis =>
      simp only [run, runAfter]
      rw [inductionHypothesis, inductionHypothesis _ _ [_], Held.after_after]
      simp
  | query sql next inductionHypothesis =>
      simp only [run, runAfter]
      rw [inductionHypothesis, inductionHypothesis _ _ [_], Held.after_after]
      simp
  | execute sql next inductionHypothesis =>
      simp only [run, runAfter]
      rw [inductionHypothesis, inductionHypothesis _ _ [_], Held.after_after]
      simp
  | note event next inductionHypothesis =>
      simp only [run, runAfter]
      rw [inductionHypothesis, inductionHypothesis _ [_], Held.after_after]
      simp

@[simp]
theorem run_done (result : Result) (state : State) :
    (Dialogue.done result).run server state = ⟨result, state, []⟩ := rfl

theorem run_version (next : Except DbError String → Dialogue Result) (state : State) :
    (Dialogue.version next).run server state =
      ((next (server.version state).1).run server (server.version state).2).after
        [.version (server.version state).1] := by
  exact runAfter_eq server (next (server.version state).1) (server.version state).2 [_]

theorem run_query (sql : String) (next : Except DbError (List Json) → Dialogue Result)
    (state : State) :
    (Dialogue.query sql next).run server state =
      ((next (server.query sql state).1).run server (server.query sql state).2).after
        [.query sql (server.query sql state).1] := by
  exact runAfter_eq server (next (server.query sql state).1) (server.query sql state).2 [_]

theorem run_execute (sql : String) (next : Except DbError Unit → Dialogue Result)
    (state : State) :
    (Dialogue.execute sql next).run server state =
      ((next (server.execute sql state).1).run server (server.execute sql state).2).after
        [.execute sql (server.execute sql state).1] := by
  exact runAfter_eq server (next (server.execute sql state).1) (server.execute sql state).2 [_]

theorem run_note (event : Event) (next : Dialogue Result) (state : State) :
    (Dialogue.note event next).run server state =
      (next.run server state).after [.note event] := by
  exact runAfter_eq server next state [_]

/-- Two dialogues are held one after the other. -/
theorem run_bind (dialogue : Dialogue First) (next : First → Dialogue Second) (state : State) :
    (dialogue.bind next).run server state =
      ((next (dialogue.run server state).result).run server
        (dialogue.run server state).state).after (dialogue.run server state).transcript := by
  induction dialogue generalizing state with
  | done result => simp [bind]
  | version rest inductionHypothesis =>
      simp [bind, run_version, inductionHypothesis, Held.after_after]
  | query sql rest inductionHypothesis =>
      simp [bind, run_query, inductionHypothesis, Held.after_after]
  | execute sql rest inductionHypothesis =>
      simp [bind, run_execute, inductionHypothesis, Held.after_after]
  | note event rest inductionHypothesis =>
      simp [bind, run_note, inductionHypothesis, Held.after_after]

/-! ## Bounds on what is said -/

/-- Whatever is said in a dialogue, with any server, is of a kind. -/
def SaysOnly (kind : Utterance → Prop) : Dialogue Result → Prop
  | .done _ => True
  | .version next => ∀ answer, kind (.version answer) ∧ (next answer).SaysOnly kind
  | .query sql next => ∀ answer, kind (.query sql answer) ∧ (next answer).SaysOnly kind
  | .execute sql next => ∀ answer, kind (.execute sql answer) ∧ (next answer).SaysOnly kind
  | .note event next => kind (.note event) ∧ next.SaysOnly kind

theorem SaysOnly.run {kind : Utterance → Prop} {dialogue : Dialogue Result}
    (bounded : dialogue.SaysOnly kind) (server : Server State) (state : State) :
    ∀ utterance ∈ (dialogue.run server state).transcript, kind utterance := by
  induction dialogue generalizing state with
  | done result => simp
  | version next inductionHypothesis =>
      have answered := bounded (server.version state).1
      simpa [run_version, answered.1] using inductionHypothesis _ answered.2 _
  | query sql next inductionHypothesis =>
      have answered := bounded (server.query sql state).1
      simpa [run_query, answered.1] using inductionHypothesis _ answered.2 _
  | execute sql next inductionHypothesis =>
      have answered := bounded (server.execute sql state).1
      simpa [run_execute, answered.1] using inductionHypothesis _ answered.2 _
  | note event next inductionHypothesis =>
      simpa [run_note, bounded.1] using inductionHypothesis bounded.2 _

theorem SaysOnly.bind {kind : Utterance → Prop} {dialogue : Dialogue First}
    {next : First → Dialogue Second} (first : dialogue.SaysOnly kind)
    (second : ∀ result, (next result).SaysOnly kind) :
    (dialogue.bind next).SaysOnly kind := by
  induction dialogue with
  | done result => exact second result
  | version rest inductionHypothesis =>
      intro answer
      exact ⟨(first answer).1, inductionHypothesis answer (first answer).2⟩
  | query sql rest inductionHypothesis =>
      intro answer
      exact ⟨(first answer).1, inductionHypothesis answer (first answer).2⟩
  | execute sql rest inductionHypothesis =>
      intro answer
      exact ⟨(first answer).1, inductionHypothesis answer (first answer).2⟩
  | note event rest inductionHypothesis =>
      exact ⟨first.1, inductionHypothesis first.2⟩

/-! ## Bounds on what comes of it -/

/-- Whatever comes of a dialogue, with any server, is of a kind. -/
def EndsWith (kind : Result → Prop) : Dialogue Result → Prop
  | .done result => kind result
  | .version next => ∀ answer, (next answer).EndsWith kind
  | .query _ next => ∀ answer, (next answer).EndsWith kind
  | .execute _ next => ∀ answer, (next answer).EndsWith kind
  | .note _ next => next.EndsWith kind

theorem EndsWith.run {kind : Result → Prop} {dialogue : Dialogue Result}
    (bounded : dialogue.EndsWith kind) (server : Server State) (state : State) :
    kind (dialogue.run server state).result := by
  induction dialogue generalizing state with
  | done result => exact bounded
  | version next inductionHypothesis =>
      rw [run_version, Held.result_after]
      exact inductionHypothesis _ (bounded _) _
  | query sql next inductionHypothesis =>
      rw [run_query, Held.result_after]
      exact inductionHypothesis _ (bounded _) _
  | execute sql next inductionHypothesis =>
      rw [run_execute, Held.result_after]
      exact inductionHypothesis _ (bounded _) _
  | note event next inductionHypothesis =>
      rw [run_note, Held.result_after]
      exact inductionHypothesis bounded _

end Dialogue

/-! ## What a detection says -/

/-- What belongs to a detection: the question for the version, two queries, and events. -/
def Utterance.IsDetection : Utterance → Prop
  | .version _ => True
  | .query sql _ => sql = Detection.pluginsSql ∨ sql = Detection.variableSql
  | .execute _ _ => False
  | .note _ => True

namespace Detection

open Dialogue

theorem conclude_saysOnly (version : String) (support : Support) :
    (conclude version support).SaysOnly Utterance.IsDetection := by
  cases support <;> exact ⟨trivial, trivial⟩

theorem ask_saysOnly (version sql : String) (judge : List Json → Support)
    (known : sql = pluginsSql ∨ sql = variableSql) :
    (ask version sql judge).SaysOnly Utterance.IsDetection := by
  intro answer
  refine ⟨known, ?_⟩
  cases answer with
  | error cause => trivial
  | ok rows => exact conclude_saysOnly version (judge rows)

theorem byVersion_saysOnly (text : String) : (byVersion text).SaysOnly Utterance.IsDetection := by
  unfold byVersion
  split
  · exact ⟨trivial, trivial⟩
  · split
    · exact conclude_saysOnly text _
    · split
      · exact ask_saysOnly text _ _ (.inl rfl)
      · split
        · exact ask_saysOnly text _ _ (.inr rfl)
        · exact conclude_saysOnly text _

/-- A detection says nothing but what belongs to it, whatever the server answers. -/
theorem detect_saysOnly (backend : Backend) : (detect backend).SaysOnly Utterance.IsDetection := by
  cases backend with
  | postgres => trivial
  | sqlite => exact ⟨trivial, trivial⟩
  | mysql =>
      intro answer
      refine ⟨trivial, ?_⟩
      cases answer with
      | error cause => trivial
      | ok text => exact byVersion_saysOnly text

end Detection

theorem Held.executions_after_detection {said : List Utterance}
    (bounded : ∀ utterance ∈ said, utterance.IsDetection) (held : Held Result State) :
    (held.after said).executions = held.executions := by
  have silent : said.filterMap Utterance.execution? = [] := by
    apply List.filterMap_eq_nil_iff.mpr
    intro utterance member
    have detecting := bounded utterance member
    cases utterance with
    | execute sql answer => exact detecting.elim
    | version answer => rfl
    | query sql answer => rfl
    | note event => rfl
  rw [Held.executions_after, silent, List.nil_append]

/-! ## What is said to fill a cache -/

namespace Cache

variable {State : Type}

theorem resolve_saysOnly (cache : Cache) (backend : Backend) :
    (cache.resolve backend).SaysOnly Utterance.IsDetection := by
  unfold resolve
  split
  · trivial
  · apply (Detection.detect_saysOnly backend).bind
    rintro (failure | support) <;> trivial

/-- What is remembered is answered without a word. -/
theorem resolve_run_of_known {cache : Cache} {support : Support}
    (known : cache.known = some support) (backend : Backend) (server : Server State)
    (state : State) :
    (cache.resolve backend).run server state = ⟨(.ok support, cache), state, []⟩ := by
  rw [resolve, known]
  rfl

/-- What is not remembered is found out, and remembered unless the detection fails. -/
theorem resolve_run_of_unknown {cache : Cache} (unknown : cache.known = none)
    (backend : Backend) (server : Server State) (state : State) :
    (cache.resolve backend).run server state =
      let detected := (Detection.detect backend).run server state
      ⟨(detected.result, ⟨detected.result.toOption⟩), detected.state, detected.transcript⟩ := by
  rw [resolve, unknown, Dialogue.run_bind]
  rcases cache with ⟨known⟩
  subst unknown
  rcases (Detection.detect backend).run server state with ⟨failure | support, later, said⟩
  · simp [Held.after, Except.toOption]
  · simp [Held.after, Except.toOption]

end Cache

end TablePartitioning
