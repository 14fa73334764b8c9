import TablePartitioning.Capability.Sharing

/-!
# Callers that arrive together

Several callers ask one server at once.  Where the server answers without delay, each caller is
done before the next one arrives; where it hesitates, all of them have arrived before it answers
the first.  Either way the callers are looked after in the order of their numbers.
-/

namespace TablePartitioning.Sharing

/-- A sharing with the state of the server, and what has been said, last first. -/
structure Round (State : Type) where
  sharing : Sharing
  state : State
  said : List Utterance

/-- The answer to the next question, where only that question is going to be answered. -/
def Reply.none : Reply :=
  ⟨.error (.custom ""), .error (.custom ""), .error (.custom "")⟩

/-- Let a server answer the detection of a caller to its end. -/
def drive (server : Server State) (caller : Nat) :
    Dialogue (Except Failure Support) → Round State → Round State
  | .done _, round =>
      { round with sharing := round.sharing.step (.proceed caller Reply.none) }
  | .version next, round =>
      let (answer, state) := server.version round.state
      let reply := { Reply.none with version := answer }
      drive server caller (next answer)
        ⟨round.sharing.step (.proceed caller reply), state, .version answer :: round.said⟩
  | .query sql next, round =>
      let (answer, state) := server.query sql round.state
      let reply := { Reply.none with rows := answer }
      drive server caller (next answer)
        ⟨round.sharing.step (.proceed caller reply), state, .query sql answer :: round.said⟩
  | .execute sql next, round =>
      let (answer, state) := server.execute sql round.state
      let reply := { Reply.none with execution := answer }
      drive server caller (next answer)
        ⟨round.sharing.step (.proceed caller reply), state, .execute sql answer :: round.said⟩
  | .note event next, round =>
      drive server caller next
        { round with
          sharing := round.sharing.step (.proceed caller Reply.none)
          said := .note event :: round.said }

/-- Bring a caller as far as it gets by itself. -/
def attend (server : Server State) (caller : Nat) (round : Round State) : Round State :=
  let round := { round with sharing := round.sharing.step (.look caller) }
  match (round.sharing.callers caller).phase with
  | .detecting rest => drive server caller rest round
  | _ => round

/-- Let callers arrive, and look at their cell. -/
def welcome (backend : Backend) (callers : List Nat) (round : Round State) : Round State :=
  { round with
    sharing := callers.foldl
      (fun sharing caller => (sharing.step (.arrive caller backend)).step (.look caller))
      round.sharing }

/-- What a caller has been answered; a caller without answer finds nothing supported. -/
def answerOf (sharing : Sharing) (caller : Nat) : Except Failure Support :=
  match (sharing.callers caller).phase with
  | .answered result => result
  | _ => .error .unsupported

/--
The answers to callers that arrive together at a cache, and what the cache remembers then.
-/
def together
    (server : Server State) (backend : Backend) (hesitates : Bool) (count : Nat)
    (cache : Cache) (state : State) :
    Held (List (Except Failure Support) × Cache) State :=
  let callers := List.range count
  let start : Round State := ⟨ofCache cache, state, []⟩
  let final :=
    if hesitates then
      callers.foldl (fun round caller => attend server caller round)
        (welcome backend callers start)
    else
      callers.foldl (fun round caller => attend server caller (welcome backend [caller] round))
        start
  ⟨(callers.map final.sharing.answerOf, final.sharing.cache), final.state, final.said.reverse⟩

end TablePartitioning.Sharing
