import TablePartitioning.Event
import TablePartitioning.Json.Basic

/-!
# Dialogues with a server

An operation is a dialogue: it asks the server, goes on with what the server answers, and ends
with a result.  The same dialogue is held with a database, with a printer of statements, and with
a script of answers; `Dialogue.run` holds it with any server and writes down what was said.
-/

namespace TablePartitioning

/-- An operation that asks a server. -/
inductive Dialogue (Result : Type) where
  | done (result : Result)
  | version (next : Except DbError String → Dialogue Result)
  | query (sql : String) (next : Except DbError (List Json) → Dialogue Result)
  | execute (sql : String) (next : Except DbError Unit → Dialogue Result)
  | note (event : Event) (next : Dialogue Result)

namespace Dialogue

/-- Go on with the result of a dialogue. -/
def bind (dialogue : Dialogue First) (next : First → Dialogue Second) : Dialogue Second :=
  match dialogue with
  | .done result => next result
  | .version rest => .version fun answer => (rest answer).bind next
  | .query sql rest => .query sql fun answer => (rest answer).bind next
  | .execute sql rest => .execute sql fun answer => (rest answer).bind next
  | .note event rest => .note event (rest.bind next)

instance : Monad Dialogue where
  pure := .done
  bind := bind

end Dialogue

/-- A server: how it answers in a state, and the state that it is in afterwards. -/
structure Server (State : Type) where
  version : State → Except DbError String × State
  query : String → State → Except DbError (List Json) × State
  execute : String → State → Except DbError Unit × State

/-- Something that was said in a dialogue, with the answer to a question. -/
inductive Utterance where
  | version (answer : Except DbError String)
  | query (sql : String) (answer : Except DbError (List Json))
  | execute (sql : String) (answer : Except DbError Unit)
  | note (event : Event)

namespace Utterance

/-- The event that was noted. -/
def event? : Utterance → Option Event
  | .note event => some event
  | _ => none

/-- The statement that was sent, to be executed or as a query. -/
def statement? : Utterance → Option String
  | .execute sql _ => some sql
  | .query sql _ => some sql
  | _ => none

/-- Whether the server was asked anything. -/
def isCall : Utterance → Bool
  | .note _ => false
  | _ => true

end Utterance

/-- A dialogue that has been held. -/
structure Held (Result State : Type) where
  result : Result
  state : State
  transcript : List Utterance

namespace Dialogue

/-- Hold a dialogue with a server, after what has been said already, last first. -/
def runAfter (server : Server State) :
    Dialogue Result → State → List Utterance → Held Result State
  | .done result, state, said => ⟨result, state, said.reverse⟩
  | .version next, state, said =>
      let (answer, state) := server.version state
      (next answer).runAfter server state (.version answer :: said)
  | .query sql next, state, said =>
      let (answer, state) := server.query sql state
      (next answer).runAfter server state (.query sql answer :: said)
  | .execute sql next, state, said =>
      let (answer, state) := server.execute sql state
      (next answer).runAfter server state (.execute sql answer :: said)
  | .note event next, state, said => next.runAfter server state (.note event :: said)

/-- Hold a dialogue with a server. -/
def run (server : Server State) (dialogue : Dialogue Result) (state : State) :
    Held Result State :=
  dialogue.runAfter server state []

end Dialogue

/-- The events of a dialogue in order. -/
def Held.events (held : Held Result State) : List Event :=
  held.transcript.filterMap Utterance.event?

end TablePartitioning
