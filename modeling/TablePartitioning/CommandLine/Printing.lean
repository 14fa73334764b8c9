import TablePartitioning.Json.Writer
import TablePartitioning.Partitioner

/-!
# What a command prints

The rows that an operation results in are printed as JSON, one on each line; whether a server
partitions tables is printed with the dialect that is known of it.  Statements may be printed in
place of being sent.
-/

namespace TablePartitioning

/-! ## Answers -/

/-- Texts on lines of their own. -/
def lines (texts : List String) : String :=
  String.join (texts.map (· ++ "\n"))

/-- What is printed for an answer, with what is remembered of the server. -/
def Answer.report (cache : Cache) : Answer → String
  | .supported answer =>
      let dialect := (cache.peek.dialect.map Dialect.name).getD "none"
      lines ["supported=" ++ (if answer then "true" else "false") ++ " dialect=" ++ dialect]
  | .partitions rows => lines (rows.map fun row => row.toJson.text)
  | .reports rows => lines (rows.map fun row => row.toJson.text)
  | .done | .dialect _ => ""

/-- An operation that results in what is printed for it. -/
def Operation.reported (currentYear : Int32) (backend : Backend) (cache : Cache)
    (operation : Operation) : Dialogue (Except Failure String × Cache) :=
  (operation.dialogue currentYear backend cache).bind fun (result, cache) =>
    .done (result.map (Answer.report cache), cache)

/-! ## Statements in place of sending them

Every statement is printed on lines of its own and ends with a semicolon.  There is no server that
could tell a version, and queries find no rows.
-/

namespace Printing

/-- The kind of server that a dialect is for. -/
def backendOf (dialect : Dialect) : Backend :=
  if dialect.isDeclarative then .postgres else .mysql

/-- A statement as it is printed. -/
def line (sql : String) : String := sql ++ ";\n"

/-- A printer, with the statements printed so far, last first. -/
def server : Server (List String) where
  version printed :=
    (.error (.custom "dry run has no server, pass --dialect"), printed)
  query sql printed := (.ok [], sql :: printed)
  execute sql printed := (.ok (), sql :: printed)

/-- The text that has been printed. -/
def text (printed : List String) : String :=
  String.join (printed.reverse.map line)

/-- Statements that were printed one after the other, each with its semicolon and its line. -/
theorem text_reverse (statements : List String) :
    text statements.reverse = String.join (statements.map fun sql => sql ++ ";\n") := by
  rw [text, List.reverse_reverse]
  rfl

end Printing

end TablePartitioning
