import TablePartitioning.Log.Level
import TablePartitioning.Log.Pattern

/-!
# Log directives

Directives filter log lines, each for a part of the program: `target=level`, or
`target[span{field=value}]=level`, with everything optional.  They are separated by commas, which
therefore cannot stand inside a directive.

A directive is read as if blanks at its ends were not there, but its parts are cut out of the text
with the blanks: a part that is `n` bytes away from the start of the one is cut out `n` bytes away
from the start of the other.
-/

namespace TablePartitioning.Directive

/-- What has been read of a directive; positions count bytes. -/
inductive State where
  | start
  | target
  | span
  /-- A field, by the position where it starts. -/
  | field (start : Nat)
  | fields
  | closed
  /-- A level, by the position where it starts. -/
  | level (start : Nat)

/-- The characters between two positions, unless one of them is inside a character. -/
def slice? : List Char → Nat → Nat → Option (List Char)
  | _, 0, 0 => some []
  | [], _, _ => none
  | c :: rest, 0, finish =>
      if finish < c.utf8Size then none
      else (slice? rest 0 (finish - c.utf8Size)).map (c :: ·)
  | c :: rest, start, finish =>
      if start < c.utf8Size || finish < c.utf8Size then none
      else slice? rest (start - c.utf8Size) (finish - c.utf8Size)

/-- The length of a text in bytes. -/
def byteLength (chars : List Char) : Nat :=
  chars.foldl (fun length c => length + c.utf8Size) 0

/-- The exponent of a number, which may be missing. -/
def isExponent : List Char → Bool
  | [] => true
  | mark :: rest =>
      let digits :=
        match rest with
        | '+' :: digits | '-' :: digits => digits
        | digits => digits
      (mark = 'e' || mark = 'E') && !digits.isEmpty && digits.all Char.isDigit

/-- Whether characters without sign are a number, with a fraction or an exponent or without. -/
def isUnsignedNumber (chars : List Char) : Bool :=
  if ["inf", "infinity", "nan"].any fun word => Text.sameIgnoringCase word (String.ofList chars)
  then true
  else
    let whole := chars.takeWhile Char.isDigit
    match chars.dropWhile Char.isDigit with
    | '.' :: rest =>
        let fraction := rest.takeWhile Char.isDigit
        !(whole.isEmpty && fraction.isEmpty) && isExponent (rest.dropWhile Char.isDigit)
    | rest => !whole.isEmpty && isExponent rest

/-- Whether characters are a number. -/
def isNumber : List Char → Bool
  | '+' :: rest | '-' :: rest => isUnsignedNumber rest
  | chars => isUnsignedNumber chars

/-- Whether a field is well formed: its value is a number or a search pattern. -/
def isField (chars : List Char) : Bool :=
  if chars.isEmpty then false
  else
    match chars.splitOn '=' with
    | _ :: value :: _ => isNumber value || Pattern.isWellFormed value
    | _ => true

/-- Whether a level is well formed; it may be missing. -/
def isLevel (chars : List Char) : Bool :=
  chars.isEmpty || (LogFilter.ofText? (String.ofList chars)).isSome

/-- Characters that a target may start with. -/
def isTargetStart (c : Char) : Bool :=
  c = '-' || c = ':' || c = '_' || Text.isAlphanumeric c

/-- Read a character at a position; the parts are cut out of the whole text. -/
def step? (whole : List Char) (position : Nat) (c : Char) : State → Option State
  | .start => if c = '[' then some .span else if isTargetStart c then some .target else none
  | .target =>
      if c = '=' then some (.level (position + 1))
      else if c = '[' then some .span
      else some .target
  | .span =>
      if c = ']' then some .closed
      else if c = '\x7b' then some (.field (position + 1))
      else some .span
  | .field start =>
      if c = '\x7d' then
        if (slice? whole start position).any isField then some .fields else none
      else some (.field start)
  | .fields => if c = ']' then some .closed else none
  | .closed => if c = '=' then some (.level (position + 1)) else none
  | .level start => some (.level start)

/-- Whether a directive may end in a state. -/
def canEnd (whole : List Char) : State → Bool
  | .target | .closed => true
  | .level start => (slice? whole start (byteLength whole)).any isLevel
  | _ => false

/-- Read characters from a position on. -/
def accepts (whole : List Char) : Nat → State → List Char → Bool
  | _, state, [] => canEnd whole state
  | position, state, c :: rest =>
      match step? whole position c state with
      | some state => accepts whole (position + c.utf8Size) state rest
      | none => false

/-- Whether a directive is well formed. -/
def isWellFormed (directive : List Char) : Bool :=
  accepts directive 0 .start (Text.trimWhere Text.isBlank directive)

/-- Whether directives are well formed; empty ones do not count. -/
def areWellFormed (directives : String) : Bool :=
  ((directives.toList.splitOn ',').filter (!·.isEmpty)).all isWellFormed

end TablePartitioning.Directive
