import TablePartitioning.Text.Basic
import TablePartitioning.Text.Classes
import TablePartitioning.Text.Numeral

/-!
# Search patterns

A filter may compare a field with a search pattern: characters, classes, groups, alternatives and
repetitions.  Here it is only decided whether a pattern is well formed.  Patterns are part of a
longer text that a closing brace would end, so nothing that is written with braces can be
completed, neither a counted repetition nor a character or a class by its full name.

A pattern is compared character by character; where a group has that switched off it is compared
byte by byte, and then it must not hold anything that some byte beyond ASCII matches.  Boundaries
of words are known byte by byte only.
-/

namespace TablePartitioning.Pattern

/-- How a part of a pattern is read. -/
structure Mode where
  /-- Character by character, and not byte by byte. -/
  byCharacter : Bool
  /-- Blanks and comments do not count. -/
  spaced : Bool

/-- What is written with a backslash. -/
inductive Escaped where
  | char (c : Char)
  | characters
  /-- The start or the end of the text. -/
  | edge
  /-- The start or the end of a word. -/
  | boundary

/-- The categories of characters that have names of one letter. -/
def isCategory (c : Char) : Bool :=
  ['c', 'l', 'm', 'n', 'p', 's', 'z'].contains c.toLower

/-- Characters that stand for themselves after a backslash. -/
def isEscapable (c : Char) : Bool :=
  c.toNat < 0x80 && !c.isAlphanum && c != '<' && c != '>'

/-- A character that is written by its code point, which a single byte cannot be in part. -/
def codePoint? (mode : Mode) (width : Nat) (chars : List Char) :
    Option (Escaped × List Char) :=
  match Text.codePoint? width chars with
  | none => none
  | some (c, rest) =>
      if !mode.byCharacter && width = 2 && 0x80 ≤ c.toNat then none
      else some (.char c, rest)

/-- What stands after a backslash. -/
def escaped? (mode : Mode) : List Char → Option (Escaped × List Char)
  | [] => none
  | c :: rest =>
      if c = 'x' then codePoint? mode 2 rest
      else if c = 'u' then codePoint? mode 4 rest
      else if c = 'U' then codePoint? mode 8 rest
      else if c = 'p' || c = 'P' then
        match rest with
        | category :: rest =>
            if mode.byCharacter && isCategory category then some (.characters, rest) else none
        | [] => none
      else if c = 'd' || c = 's' || c = 'w' then some (.characters, rest)
      else if c = 'D' || c = 'S' || c = 'W' then
        if mode.byCharacter then some (.characters, rest) else none
      else if isEscapable c then some (.char c, rest)
      else if c = 'a' then some (.char '\x07', rest)
      else if c = 'f' then some (.char '\x0c', rest)
      else if c = 't' then some (.char '\t', rest)
      else if c = 'n' then some (.char '\n', rest)
      else if c = 'r' then some (.char '\r', rest)
      else if c = 'v' then some (.char '\x0b', rest)
      else if c = 'A' || c = 'z' then some (.edge, rest)
      else if c = 'b' || c = 'B' || c = '<' || c = '>' then some (.boundary, rest)
      else none

/-! ### Classes in brackets -/

/-- An item of a class: one character, or else a class of them. -/
def classItem? (mode : Mode) : List Char → Option (Option Char × List Char)
  | [] => none
  | '\\' :: rest =>
      match escaped? mode rest with
      | some (.char c, rest) => some (some c, rest)
      | some (.characters, rest) => some (none, rest)
      | _ => none
  | c :: rest => if !mode.byCharacter && 0x80 ≤ c.toNat then none else some (some c, rest)

/-- An item, or a range from one character to another that is not before it. -/
def classRange? (mode : Mode) (chars : List Char) : Option (List Char) :=
  match classItem? mode chars with
  | none => none
  | some (first, '-' :: c :: rest) =>
      if c = ']' || c = '-' then some ('-' :: c :: rest)
      else
        match first, classItem? mode (c :: rest) with
        | some first, some (some last, rest) => if first ≤ last then some rest else none
        | _, _ => none
  | some (_, rest) => some rest

/--
The start of a class after its bracket: a caret negates it, dashes stand for themselves, and so
does a closing bracket that nothing stands before.
-/
def openClass? (mode : Mode) (chars : List Char) : Option (List Char) :=
  let negated := chars.head? = some '^'
  let body := if negated then chars.drop 1 else chars
  let rest := body.dropWhile (· = '-')
  if negated && !mode.byCharacter then none
  else if rest.length = body.length && rest.head? = some ']' then some (rest.drop 1)
  else some rest

/-- The rest after a class, in which classes may be nested; the fuel is the number of characters. -/
def closeClass? (mode : Mode) : Nat → Nat → List Char → Option (List Char)
  | fuel + 1, depth, '[' :: rest =>
      (openClass? mode rest).bind (closeClass? mode fuel (depth + 1))
  | _ + 1, 1, ']' :: rest => some rest
  | fuel + 1, depth, ']' :: rest => closeClass? mode fuel (depth - 1) rest
  | fuel + 1, depth, '&' :: '&' :: rest => closeClass? mode fuel depth rest
  | fuel + 1, depth, '-' :: '-' :: rest => closeClass? mode fuel depth rest
  | fuel + 1, depth, '~' :: '~' :: rest => closeClass? mode fuel depth rest
  | fuel + 1, depth, chars => (classRange? mode chars).bind (closeClass? mode fuel depth)
  | 0, _, _ => none

/-! ### Groups -/

/-- The flags of a group, with those after a dash switched off. -/
structure Flags where
  set : List Char
  unset : List Char

/-- Read flags up to a mark, each at most once. -/
def flags? : List Char → Bool → Flags → Option (Flags × Char × List Char)
  | [], _, _ => none
  | c :: rest, negated, flags =>
      if c = ':' || c = ')' then
        if negated && flags.unset.isEmpty then none else some (flags, c, rest)
      else if c = '-' then if negated then none else flags? rest true flags
      else if !(['i', 'm', 's', 'U', 'u', 'R', 'x'].contains c) then none
      else if flags.set.contains c || flags.unset.contains c then none
      else if negated then flags? rest true { flags with unset := c :: flags.unset }
      else flags? rest false { flags with set := c :: flags.set }

/-- The mode after flags. -/
def Mode.change (mode : Mode) (flags : Flags) : Mode where
  byCharacter := (mode.byCharacter || flags.set.contains 'u') && !flags.unset.contains 'u'
  spaced := (mode.spaced || flags.set.contains 'x') && !flags.unset.contains 'x'

/-- Whether characters are the name of a group. -/
def isGroupName : List Char → Bool
  | [] => false
  | first :: rest =>
      (first = '_' || (Text.isAlphanumeric first && !first.isDigit)) &&
        rest.all fun c => c = '_' || c = '.' || c = '[' || c = ']' || Text.isAlphanumeric c

/-! ### Patterns -/

/-- A pattern that has been read in part. -/
structure State where
  mode : Mode
  /-- The modes around the groups that are open, the innermost first. -/
  groups : List Mode
  names : List (List Char)
  /-- Whether there is something that could be repeated. -/
  repeatable : Bool

namespace State

/-- A pattern before its first character. -/
def initial : State := ⟨⟨true, false⟩, [], [], false⟩

/-- Something that could be repeated has been read. -/
def item (state : State) : State := { state with repeatable := true }

/-- A group begins, and with it a mode. -/
def push (state : State) (mode : Mode) : State :=
  { state with mode := mode, groups := state.mode :: state.groups, repeatable := false }

/-- A group that has a name, which no other group has. -/
def named? (state : State) (chars : List Char) : Option (State × List Char) :=
  let name := chars.takeWhile (· ≠ '>')
  match chars.dropWhile (· ≠ '>') with
  | '>' :: rest =>
      if isGroupName name && !state.names.contains name then
        some ({ state.push state.mode with names := name :: state.names }, rest)
      else none
  | _ => none

/-- What stands after an opening parenthesis; nothing may look beyond the text that matches. -/
def group? (state : State) : List Char → Option (State × List Char)
  | '?' :: 'P' :: '<' :: rest => state.named? rest
  | '?' :: '<' :: rest => state.named? rest
  | '?' :: rest =>
      match flags? rest false ⟨[], []⟩ with
      | none => none
      | some (flags, mark, rest) =>
          let mode := state.mode.change flags
          if mark = ':' then some (state.push mode, rest)
          else if flags.set.isEmpty && flags.unset.isEmpty then none
          else some ({ state with mode := mode, repeatable := false }, rest)
  | rest => some (state.push state.mode, rest)

/-- Read the next part of a pattern. -/
def next? (state : State) (c : Char) (rest : List Char) : Option (State × List Char) :=
  if state.mode.spaced && Text.isBlank c then some (state, rest)
  else if state.mode.spaced && c = '#' then some (state, rest.dropWhile (· ≠ '\n'))
  else if c = '(' then state.group? rest
  else if c = ')' then
    match state.groups with
    | mode :: groups => some ({ state with mode, groups, repeatable := true }, rest)
    | [] => none
  else if c = '|' then some ({ state with repeatable := false }, rest)
  else if c = '*' || c = '+' || c = '?' then
    if state.repeatable then some (state, rest) else none
  else if c = '\x7b' then none
  else if c = '[' then
    (openClass? state.mode rest).bind fun rest =>
      (closeClass? state.mode (rest.length + 1) 1 rest).map fun rest => (state.item, rest)
  else if c = '\\' then
    match escaped? state.mode rest with
    | none => none
    | some (.boundary, rest) => if state.mode.byCharacter then none else some (state.item, rest)
    | some (_, rest) => some (state.item, rest)
  else if c = '.' && !state.mode.byCharacter then none
  else some (state.item, rest)

end State

/-- Read a pattern to its end; the fuel is the number of characters. -/
def read? : Nat → State → List Char → Option State
  | _, state, [] => some state
  | 0, _, _ => none
  | fuel + 1, state, c :: rest =>
      match state.next? c rest with
      | none => none
      | some (state, rest) => read? fuel state rest

/-- Whether a pattern is well formed. -/
def isWellFormed (pattern : List Char) : Bool :=
  match read? pattern.length .initial pattern with
  | some state => state.groups.isEmpty
  | none => false

end TablePartitioning.Pattern
