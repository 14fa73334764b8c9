import TablePartitioning.Config.Environment
import TablePartitioning.Text.Basic
import TablePartitioning.Text.Classes

/-!
# Files of environment variables

A file holds one assignment `NAME=value` on each line, with quotes, escapes, comments, and dollar
signs for the values of other variables.  A quoted value may go on over several lines.  Variables
that are set already stay as they are, and the first malformed line ends the reading.
-/

namespace TablePartitioning.DotEnv

/-! ### Lines -/

/-- The lines of a text, each with the line break that it ends in. -/
def physicalLines : List Char → List (List Char)
  | [] => []
  | c :: rest =>
      if c = '\n' then [c] :: physicalLines rest
      else
        match physicalLines rest with
        | [] => [[c]]
        | line :: lines => (c :: line) :: lines

/-- What a line is in the middle of. -/
inductive LineState where
  | complete
  | escape
  | singleQuoted
  | singleQuotedEscape
  | doubleQuoted
  | doubleQuotedEscape
  | comment
  | blank
deriving DecidableEq

/-- After a character outside of quotes. -/
def LineState.afterPlain (c : Char) : LineState :=
  if c = '\\' then .escape
  else if c = '"' then .doubleQuoted
  else if c = '\'' then .singleQuoted
  else .complete

/-- After one more character. -/
def LineState.next (state : LineState) (c : Char) : LineState :=
  match state with
  | .blank => if c = '#' then .comment else .afterPlain c
  | .escape => .complete
  | .complete =>
      if Text.isBlank c && c != '\n' && c != '\r' then .blank else .afterPlain c
  | .doubleQuoted =>
      if c = '\\' then .doubleQuotedEscape else if c = '"' then .complete else .doubleQuoted
  | .doubleQuotedEscape => .doubleQuoted
  | .singleQuoted =>
      if c = '\\' then .singleQuotedEscape else if c = '\'' then .complete else .singleQuoted
  | .singleQuotedEscape => .singleQuoted
  | .comment => .comment

/-- The state after a line, and the line up to a comment. -/
def scanLine : LineState → List Char → LineState × List Char
  | state, [] => (state, [])
  | state, c :: rest =>
      match state.next c with
      | .comment => (.comment, [])
      | next =>
          let (final, kept) := scanLine next rest
          (final, c :: kept)

/-- A line without the line break that it ends in. -/
def withoutBreak (line : List Char) : List Char :=
  match line.reverse with
  | '\n' :: '\r' :: rest => rest.reverse
  | '\n' :: rest => rest.reverse
  | _ => line

/-! ### Values -/

/-- What a value is in the middle of. -/
inductive ValueMode where
  | plain
  | escape
  | singleQuoted
  /-- After a dollar sign: the name of a variable. -/
  | name
  /-- After a dollar sign and a brace. -/
  | bracedName
  /-- After a blank, where only a comment may follow. -/
  | ended

/-- A value that has been read in part; characters are kept last first. -/
structure ValueState where
  mode : ValueMode
  doubleQuoted : Bool
  written : List Char
  name : List Char

namespace ValueState

/-- Nothing has been read. -/
def initial : ValueState := ⟨.plain, false, [], []⟩

/-- Add a character to the value. -/
def push (state : ValueState) (c : Char) : ValueState :=
  { state with mode := .plain, written := c :: state.written }

/-- Add the value of the variable whose name has been read. -/
def substitute (valueOf : String → String) (state : ValueState) : ValueState :=
  { state with
    mode := .plain
    written := (valueOf (String.ofList state.name.reverse)).toList.reverse ++ state.written
    name := [] }

/-- Read a character outside of single quotes, names and escapes. -/
def plain (state : ValueState) (c : Char) : ValueState :=
  if c = '$' then { state with mode := .name }
  else if c = '\\' then { state with mode := .escape }
  else if state.doubleQuoted then
    if c = '"' then { state with doubleQuoted := false } else state.push c
  else if c = '\'' then { state with mode := .singleQuoted }
  else if c = '"' then { state with doubleQuoted := true }
  else if c = ' ' || c = '\t' then { state with mode := .ended }
  else state.push c

/-- Read one character. -/
def next? (valueOf : String → String) (state : ValueState) (c : Char) : Option ValueState :=
  match state.mode with
  | .plain => some (state.plain c)
  | .ended => if c = ' ' || c = '\t' then some state else none
  | .escape =>
      if c = '\\' || c = '\'' || c = '"' || c = '$' || c = ' ' then some (state.push c)
      else if c = 'n' then some (state.push '\n')
      else none
  | .singleQuoted =>
      if c = '\'' then some { state with mode := .plain }
      else some { state with written := c :: state.written }
  | .name =>
      if Text.isAlphanumeric c then some { state with name := c :: state.name }
      else if c = '\x7b' && state.name.isEmpty then some { state with mode := .bracedName }
      else if c = '$' then some { state.substitute valueOf with mode := .name }
      else some ((state.substitute valueOf).push c)
  | .bracedName =>
      if c = '\x7d' then some (state.substitute valueOf)
      else some { state with name := c :: state.name }

/-- The value at the end; nothing may be open. -/
def finish? (valueOf : String → String) (state : ValueState) : Option String :=
  let isOpen :=
    match state.mode with
    | .singleQuoted | .bracedName => true
    | _ => state.doubleQuoted
  if isOpen then none
  else some (String.ofList (state.substitute valueOf).written.reverse)

end ValueState

/-- Read a value up to its end or to a comment. -/
def value? (valueOf : String → String) : ValueState → List Char → Option String
  | state, [] => state.finish? valueOf
  | state, c :: rest =>
      match state.mode, decide (c = '#') with
      | .ended, true => state.finish? valueOf
      | _, _ =>
          match state.next? valueOf c with
          | some next => value? valueOf next rest
          | none => none

/-! ### Assignments -/

/-- The name of a variable, and what follows it. -/
def name? (chars : List Char) : Option (String × List Char) :=
  match chars with
  | [] => none
  | first :: _ =>
      if first.isAlpha || first = '_' then
        let isNameChar (c : Char) : Bool := c.isAlphanum || c = '_' || c = '.'
        some (String.ofList (chars.takeWhile isNameChar), chars.dropWhile isNameChar)
      else none

/-- What follows an equals sign and blanks. -/
def afterEquals? : List Char → Option (List Char)
  | '=' :: rest => some (rest.dropWhile Text.isBlank)
  | _ => none

/-- The name of an assignment, which the word `export` may stand before, and its right side. -/
def assignment? (chars : List Char) : Option (String × List Char) := do
  let (name, rest) ← name? chars
  let rest := rest.dropWhile Text.isBlank
  match afterEquals? rest with
  | some right => return (name, right)
  | none =>
      if name = "export" then
        let (name, rest) ← name? rest
        return (name, ← afterEquals? (rest.dropWhile Text.isBlank))
      else none

/-- The variables that are set, and those that the file has assigned. -/
structure Loaded where
  environment : Environment
  assigned : List (String × String)

namespace Loaded

/-- The value of a variable: as it is set, else as it was assigned last, else nothing. -/
def valueOf (loaded : Loaded) (name : String) : String :=
  match loaded.environment.lookup name with
  | some value => value
  | none => (loaded.assigned.lookup name).getD ""

/-- Assign a variable, and set it unless it is set already. -/
def assign (loaded : Loaded) (name value : String) : Loaded where
  environment :=
    match loaded.environment.lookup name with
    | some _ => loaded.environment
    | none => loaded.environment ++ [(name, value)]
  assigned := (name, value) :: loaded.assigned

/-- Carry out one line; a malformed line is refused. -/
def line? (loaded : Loaded) (line : List Char) : Option Loaded :=
  let chars := ((line.reverse.dropWhile Text.isBlank).reverse).dropWhile Text.isBlank
  if chars.isEmpty || chars.head? = some '#' then some loaded
  else
    match assignment? chars with
    | none => none
    | some (name, right) =>
        if right.isEmpty || right.head? = some '#' then some (loaded.assign name "")
        else (value? loaded.valueOf .initial right).map (loaded.assign name)

/-- Whether a text is a comment from its first character that is not blank. -/
def isComment (chars : List Char) : Bool :=
  (chars.dropWhile Text.isBlank).head? = some '#'

/-- Carry out lines, after the start of a line that is not complete. -/
def run (loaded : Loaded) : LineState → List Char → List (List Char) → Loaded
  | _, _, [] => loaded
  | state, start, line :: rest =>
      if isComment (start ++ line) then run loaded .complete [] rest
      else
        let (final, kept) := scanLine state line
        let whole := start ++ kept
        if final = .complete || final = .comment then
          match loaded.line? (if final = .complete then withoutBreak whole else whole) with
          | some loaded => run loaded .complete [] rest
          | none => loaded
        else run loaded final whole rest

end Loaded

/-- The environment with the variables of a file. -/
def load (text : String) (environment : Environment) : Environment :=
  let chars :=
    match text.toList with
    | '\ufeff' :: rest => rest
    | chars => chars
  (Loaded.run ⟨environment, []⟩ .complete [] (physicalLines chars)).environment

end TablePartitioning.DotEnv
