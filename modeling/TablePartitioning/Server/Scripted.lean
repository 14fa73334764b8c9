import TablePartitioning.Server.Dialogue

/-!
# A server that follows a script

The script holds the version, the rows of the queries, and the numbers of the calls that fail.
Calls of each kind are counted from zero, failures included; statements that fail are not kept.
-/

namespace TablePartitioning

/-- What a scripted server answers. -/
structure Script where
  version : String
  plugins : List Json
  serverVariables : List Json
  rows : List Json
  failVersion : List Nat
  failQuery : List Nat
  failExecute : List Nat
  /-- The version is answered only after a pause. -/
  hesitates : Bool

/-- A script that nothing has been put into. -/
def Script.empty : Script := ⟨"", [], [], [], [], [], [], false⟩

/-- A scripted server with what it has been sent, the last first. -/
structure Scripted where
  script : Script
  versionCalls : Nat
  queryCalls : Nat
  executeCalls : Nat
  queried : List String
  executed : List String

namespace Scripted

/-- A server before its first call. -/
def ofScript (script : Script) : Scripted := ⟨script, 0, 0, 0, [], []⟩

/-- The error of a call. -/
def failure (kind : String) (call : Nat) : DbError :=
  .custom (kind ++ " call " ++ call.repr ++ " failed")

/-- The rows that a script has for a query. -/
def rowsFor (script : Script) (sql : String) : List Json :=
  if sql = "SHOW PLUGINS" then script.plugins
  else if "SHOW VARIABLES".toList.isPrefixOf sql.toList then script.serverVariables
  else script.rows

/-- How a scripted server answers. -/
def server : Server Scripted where
  version state :=
    let call := state.versionCalls
    let next := { state with versionCalls := call + 1 }
    if state.script.failVersion.contains call then (.error (failure "version" call), next)
    else (.ok state.script.version, next)
  query sql state :=
    let call := state.queryCalls
    let next := { state with queryCalls := call + 1 }
    if state.script.failQuery.contains call then (.error (failure "query" call), next)
    else (.ok (rowsFor state.script sql), { next with queried := sql :: state.queried })
  execute sql state :=
    let call := state.executeCalls
    let next := { state with executeCalls := call + 1 }
    if state.script.failExecute.contains call then (.error (failure "execute" call), next)
    else (.ok (), { next with executed := sql :: state.executed })

end Scripted

end TablePartitioning
