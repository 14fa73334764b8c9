import TablePartitioning.Json.Number

/-!
# Writing JSON

A value is written on one line without blanks.  Inside a text only the quote, the backslash and
the controls below the space are escaped, so a written value never holds a line break.
-/

namespace TablePartitioning.Json

/-- How a character is spelled inside a text. -/
def spell (c : Char) : List Char :=
  if c = '"' then ['\\', '"']
  else if c = '\\' then ['\\', '\\']
  else if c = '\x08' then ['\\', 'b']
  else if c = '\x0c' then ['\\', 'f']
  else if c = '\n' then ['\\', 'n']
  else if c = '\r' then ['\\', 'r']
  else if c = '\t' then ['\\', 't']
  else if c.toNat < 0x20 then
    ['\\', 'u', '0', '0', Nat.digitChar (c.toNat / 16), Nat.digitChar (c.toNat % 16)]
  else [c]

/-- A text between quotes. -/
def textToken (text : String) : String :=
  String.ofList ('"' :: text.toList.flatMap spell ++ ['"'])

mutual

/-- The text of a value. -/
def text : Json → String
  | .null => "null"
  | .bool value => if value then "true" else "false"
  | .integer value => Text.Numeral.ofInt value
  | .float value => floatText value
  | .string value => textToken value
  | .array items => "[" ++ ",".intercalate (textOfItems items) ++ "]"
  | .object fields => "\x7b" ++ ",".intercalate (textOfFields fields) ++ "\x7d"

/-- The texts of the items of an array. -/
def textOfItems : List Json → List String
  | [] => []
  | item :: rest => item.text :: textOfItems rest

/-- The texts of the fields of an object. -/
def textOfFields : List (String × Json) → List String
  | [] => []
  | (name, value) :: rest => (textToken name ++ ":" ++ value.text) :: textOfFields rest

end

end TablePartitioning.Json
