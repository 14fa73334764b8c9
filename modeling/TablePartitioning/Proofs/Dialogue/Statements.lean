import TablePartitioning.CommandLine.Printing
import TablePartitioning.Proofs.Dialogue.Transcript

/-!
# The statements that a dialogue comes to

`Sends` follows a dialogue along the answers of a server that does what it is asked to, and lists
the statements on the way.  It speaks of no server: a printer always answers like that, and so does
any other server in a dialogue whose calls all succeed, so that both are sent the same list.
-/

namespace TablePartitioning

variable {First Second Result State : Type}

namespace Held

/-- The statements that were sent, to be executed or as queries. -/
def sent (held : Held Result State) : List String :=
  held.transcript.filterMap Utterance.statement?

theorem sent_after (said : List Utterance) (held : Held Result State) :
    (held.after said).sent = said.filterMap Utterance.statement? ++ held.sent := by
  simp [sent]

end Held

/-- Whether a call was carried out, and all rows that it brought can be read. -/
def Utterance.Succeeds (reads : Json → Prop) : Utterance → Prop
  | .version answer => ∃ text, answer = .ok text
  | .query _ answer => ∃ rows, answer = .ok rows ∧ ∀ row ∈ rows, reads row
  | .execute _ answer => answer = .ok ()
  | .note _ => True

namespace Dialogue

/-- Where all calls succeed, a dialogue sends the statements of a list and comes to an end of a
kind; it never asks for the version. -/
inductive Sends (reads : Json → Prop) (ends : Result → Prop) :
    Dialogue Result → List String → Prop where
  | done {result : Result} (ended : ends result) : Sends reads ends (.done result) []
  | query {sql : String} {next : Except DbError (List Json) → Dialogue Result}
      {rest : List String}
      (answered : ∀ rows, (∀ row ∈ rows, reads row) → Sends reads ends (next (.ok rows)) rest) :
      Sends reads ends (.query sql next) (sql :: rest)
  | execute {sql : String} {next : Except DbError Unit → Dialogue Result} {rest : List String}
      (executed : Sends reads ends (next (.ok ())) rest) :
      Sends reads ends (.execute sql next) (sql :: rest)
  | note {event : Event} {next : Dialogue Result} {statements : List String}
      (noted : Sends reads ends next statements) :
      Sends reads ends (.note event next) statements

namespace Sends

variable {reads : Json → Prop} {ends : Result → Prop} {dialogue : Dialogue Result}
  {statements : List String}

theorem bind {ends : First → Prop} {last : Second → Prop} {dialogue : Dialogue First}
    {next : First → Dialogue Second} {later : List String}
    (first : dialogue.Sends reads ends statements)
    (second : ∀ result, ends result → (next result).Sends reads last later) :
    (dialogue.bind next).Sends reads last (statements ++ later) := by
  induction first with
  | done ended => exact second _ ended
  | query answered inductionHypothesis => exact .query inductionHypothesis
  | execute executed inductionHypothesis => exact .execute inductionHypothesis
  | note noted inductionHypothesis => exact .note inductionHypothesis

theorem finish {ends : First → Prop} {last : Second → Prop} {dialogue : Dialogue First}
    {next : First → Dialogue Second} (first : dialogue.Sends reads ends statements)
    (second : ∀ result, ends result → (next result).Sends reads last []) :
    (dialogue.bind next).Sends reads last statements := by
  have both := first.bind second
  rwa [List.append_nil] at both

/-- A server that carries out all that it is asked to is sent the whole list. -/
theorem run (sends : dialogue.Sends reads ends statements) (server : Server State) (state : State)
    (succeeds : ∀ utterance ∈ (dialogue.run server state).transcript,
      utterance.Succeeds reads) :
    (dialogue.run server state).sent = statements ∧
      ends (dialogue.run server state).result := by
  induction sends generalizing state with
  | done ended => exact ⟨rfl, ended⟩
  | @query sql next rest _ inductionHypothesis =>
      rw [run_query, Held.transcript_after] at succeeds
      obtain ⟨called, continued⟩ := List.forall_mem_cons.mp succeeds
      obtain ⟨rows, answer, readable⟩ := called
      rw [answer] at continued
      rw [run_query, Held.sent_after, Held.result_after, answer]
      obtain ⟨sent, ended⟩ := inductionHypothesis rows readable _ continued
      exact ⟨congrArg (sql :: ·) sent, ended⟩
  | @execute sql next rest _ inductionHypothesis =>
      rw [run_execute, Held.transcript_after] at succeeds
      obtain ⟨called, continued⟩ := List.forall_mem_cons.mp succeeds
      have answer : (server.execute sql state).1 = .ok () := called
      rw [answer] at continued
      rw [run_execute, Held.sent_after, Held.result_after, answer]
      obtain ⟨sent, ended⟩ := inductionHypothesis _ continued
      exact ⟨congrArg (sql :: ·) sent, ended⟩
  | note _ inductionHypothesis =>
      rw [run_note, Held.transcript_after] at succeeds
      obtain ⟨_, continued⟩ := List.forall_mem_cons.mp succeeds
      rw [run_note, Held.sent_after, Held.result_after]
      exact inductionHypothesis state continued

/-- A printer keeps the whole list, after what it has printed already. -/
theorem print (sends : dialogue.Sends reads ends statements) (printed : List String) :
    (dialogue.run Printing.server printed).state = statements.reverse ++ printed ∧
      ends (dialogue.run Printing.server printed).result := by
  induction sends generalizing printed with
  | done ended => exact ⟨rfl, ended⟩
  | @query sql next rest _ inductionHypothesis =>
      have readable : ∀ row ∈ ([] : List Json), reads row := by
        intro row member
        cases member
      obtain ⟨kept, ended⟩ := inductionHypothesis [] readable (sql :: printed)
      rw [run_query, Held.state_after, Held.result_after, List.reverse_cons, List.append_assoc]
      exact ⟨kept, ended⟩
  | @execute sql next rest _ inductionHypothesis =>
      obtain ⟨kept, ended⟩ := inductionHypothesis (sql :: printed)
      rw [run_execute, Held.state_after, Held.result_after, List.reverse_cons, List.append_assoc]
      exact ⟨kept, ended⟩
  | note _ inductionHypothesis =>
      rw [run_note, Held.state_after, Held.result_after]
      exact inductionHypothesis printed

end Sends

end Dialogue

end TablePartitioning
