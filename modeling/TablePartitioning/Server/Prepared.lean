import TablePartitioning.Server.Dialogue

/-!
# A database with prepared results

A connection to a database in memory: every query, the one for the version included, takes the
next prepared rows, and every other statement the next prepared outcome.  All statements are
logged, those that fail as well.
-/

namespace TablePartitioning

/-- Prepared results, and the log of statements, last first. -/
structure Prepared where
  /-- The rows of the queries to come, or the words of an error. -/
  queries : List (Except String (List Json))
  /-- Whether the statements to come succeed. -/
  executions : List (Except String Unit)
  log : List String

namespace Prepared

/-- The statement that asks for the version. -/
def versionSql : String := "SELECT version()"

/-- Log a query and take its rows. -/
def take (sql : String) (state : Prepared) : Except DbError (List Json) × Prepared :=
  let state := { state with log := sql :: state.log }
  match state.queries with
  | [] => (.error (.query "\x60query_results\x60 buffer is empty."), state)
  | .ok rows :: rest => (.ok rows, { state with queries := rest })
  | .error detail :: rest => (.error (.custom detail), { state with queries := rest })

/-- The text in the first column of the first row. -/
def firstText (rows : List Json) : Except DbError String :=
  match rows with
  | [] => .error (.recordNotFound (versionSql ++ " returned no rows"))
  | .object ((_, .string text) :: _) :: _ => .ok text
  | _ => .error (.type "A null value was encountered while decoding 0")

/-- How a prepared database answers. -/
def server : Server Prepared where
  version state :=
    match take versionSql state with
    | (.ok rows, state) => (firstText rows, state)
    | (.error cause, state) => (.error cause, state)
  query := take
  execute sql state :=
    let state := { state with log := sql :: state.log }
    match state.executions with
    | [] => (.error (.execution "\x60exec_results\x60 buffer is empty"), state)
    | .ok () :: rest => (.ok (), { state with executions := rest })
    | .error detail :: rest => (.error (.custom detail), { state with executions := rest })

end Prepared

end TablePartitioning
