import TablePartitioning.Json.Number
import TablePartitioning.Text.Numeral

/-!
# The tokens of a JSON text

`Token.scan` reads a text one character at a time.  What has been read of an unfinished token is
the state of the scan; a word or a number ends at the first character that cannot belong to it.
-/

namespace TablePartitioning.Json

/-- A mark, a text, or any other value that is a single word. -/
inductive Token where
  | openBracket
  | closeBracket
  | openBrace
  | closeBrace
  | colon
  | comma
  | text (value : String)
  | word (value : Json)

namespace Token

/-- What the scan is in the middle of; characters of a token are kept last first. -/
inductive State where
  | between
  | text (written : List Char)
  | escape (written : List Char)
  /-- The digits of a code unit, after the leading half of a pair if there is one. -/
  | codeUnit (written : List Char) (leading : Option Nat) (digits : List Nat)
  /-- After the leading half of a pair, before the backslash of the other half. -/
  | trailingEscape (written : List Char) (leading : Nat)
  /-- After that backslash. -/
  | trailingUnit (written : List Char) (leading : Nat)
  | word (written : List Char)

/-- Characters of words and numbers. -/
def isWordChar (c : Char) : Bool :=
  c.isAlphanum || c = '+' || c = '-' || c = '.'

/-- The blanks between tokens. -/
def isSpace (c : Char) : Bool :=
  c = ' ' || c = '\n' || c = '\r' || c = '\t'

/-- The value of a whole word. -/
def ofWord? (written : List Char) : Option Token :=
  let chars := written.reverse
  if chars = "null".toList then some (.word .null)
  else if chars = "true".toList then some (.word (.bool true))
  else if chars = "false".toList then some (.word (.bool false))
  else (number? chars).map .word

/-- The token that a single character is, or the start of one. -/
def start? (c : Char) : Option (State × List Token) :=
  if isSpace c then some (.between, [])
  else if c = '"' then some (.text [], [])
  else if c = '[' then some (.between, [.openBracket])
  else if c = ']' then some (.between, [.closeBracket])
  else if c = '\x7b' then some (.between, [.openBrace])
  else if c = '\x7d' then some (.between, [.closeBrace])
  else if c = ':' then some (.between, [.colon])
  else if c = ',' then some (.between, [.comma])
  else if isWordChar c then some (.word [c], [])
  else none

/-- The character that an escape letter stands for. -/
def escaped? (c : Char) : Option Char :=
  if c = '"' || c = '\\' || c = '/' then some c
  else if c = 'b' then some '\x08'
  else if c = 'f' then some '\x0c'
  else if c = 'n' then some '\n'
  else if c = 'r' then some '\r'
  else if c = 't' then some '\t'
  else none

/-- What follows the fourth digit of a code unit; halves of pairs stand only in pairs. -/
def endUnit? (written : List Char) (leading : Option Nat) (unit : Nat) : Option State :=
  match leading with
  | none =>
      if 0xD800 ≤ unit && unit ≤ 0xDBFF then some (.trailingEscape written unit)
      else if 0xDC00 ≤ unit && unit ≤ 0xDFFF then none
      else some (.text (Char.ofNat unit :: written))
  | some high =>
      if 0xDC00 ≤ unit && unit ≤ 0xDFFF then
        let code := 0x10000 + (high - 0xD800) * 0x400 + (unit - 0xDC00)
        some (.text (Char.ofNat code :: written))
      else none

/-- Read one character: the new state, and the tokens that it completes. -/
def step? (state : State) (c : Char) : Option (State × List Token) :=
  match state with
  | .between => start? c
  | .text written =>
      if c = '"' then some (.between, [.text (String.ofList written.reverse)])
      else if c = '\\' then some (.escape written, [])
      else if c.toNat < 0x20 then none
      else some (.text (c :: written), [])
  | .escape written =>
      if c = 'u' then some (.codeUnit written none [], [])
      else (escaped? c).map fun char => (.text (char :: written), [])
  | .codeUnit written leading digits => do
      let digits := digits ++ [← Text.hexDigit? c]
      if digits.length < 4 then return (.codeUnit written leading digits, [])
      let state ← endUnit? written leading (digits.foldl (fun unit digit => unit * 16 + digit) 0)
      return (state, [])
  | .trailingEscape written leading =>
      if c = '\\' then some (.trailingUnit written leading, []) else none
  | .trailingUnit written leading =>
      if c = 'u' then some (.codeUnit written (some leading) [], []) else none
  | .word written =>
      if isWordChar c then some (.word (c :: written), [])
      else do
        let word ← ofWord? written
        let (state, tokens) ← start? c
        return (state, word :: tokens)

/-- The tokens that are left when the text ends; an unfinished text is refused. -/
def finish? : State → Option (List Token)
  | .between => some []
  | .word written => (ofWord? written).map fun word => [word]
  | _ => none

/-- The scan after one more character, with the tokens found so far, last first. -/
def scanNext? (scanned : State × List Token) (c : Char) : Option (State × List Token) :=
  (step? scanned.1 c).map fun (next, tokens) => (next, tokens.reverse ++ scanned.2)

/-- The tokens of a whole text. -/
def scan? (text : String) : Option (List Token) := do
  let (state, found) ← text.toList.foldlM scanNext? (.between, [])
  return found.reverse ++ (← finish? state)

end Token

end TablePartitioning.Json
