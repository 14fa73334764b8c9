import TablePartitioning.Json.Token

/-!
# Reading JSON

The tokens are read one at a time; the arrays and objects that are still open lie on a stack, the
innermost first.  At most 127 of them are open at once.
-/

namespace TablePartitioning.Json

/-- An array or object that is still open; items and fields are kept last first. -/
inductive Frame where
  | array (items : List Json)
  | object (fields : List (String × Json)) (name : String)

/-- What may come next. -/
inductive Expected where
  | value
  | valueOrEnd
  | nameOrEnd (fields : List (String × Json))
  | name (fields : List (String × Json))
  | colon (fields : List (String × Json)) (name : String)
  | separator (last : Json)

/-- The reader between two tokens. -/
structure Reader where
  frames : List Frame
  expected : Expected

/-- The greatest number of arrays and objects around a value. -/
def maxDepth : Nat := 127

namespace Reader

/-- A value has been read. -/
def push (reader : Reader) (value : Json) : Option Reader :=
  some { reader with expected := .separator value }

/-- Close the innermost array or object, whose last value has been read. -/
def close? (reader : Reader) (last : Json) (bracket : Bool) : Option Reader :=
  match reader.frames, bracket with
  | .array items :: frames, true =>
      some ⟨frames, .separator (.array (last :: items).reverse)⟩
  | .object fields name :: frames, false =>
      some ⟨frames, .separator (.ofFields ((name, last) :: fields).reverse)⟩
  | _, _ => none

/-- Read one token. -/
def step? (reader : Reader) (token : Token) : Option Reader :=
  match reader.expected, token with
  | .value, .openBracket | .valueOrEnd, .openBracket =>
      if reader.frames.length < maxDepth then
        some ⟨.array [] :: reader.frames, .valueOrEnd⟩
      else none
  | .value, .openBrace | .valueOrEnd, .openBrace =>
      if reader.frames.length < maxDepth then
        some ⟨reader.frames, .nameOrEnd []⟩
      else none
  | .value, .text value | .valueOrEnd, .text value => reader.push (.string value)
  | .value, .word value | .valueOrEnd, .word value => reader.push value
  | .valueOrEnd, .closeBracket =>
      match reader.frames with
      | .array [] :: frames => some ⟨frames, .separator (.array [])⟩
      | _ => none
  | .nameOrEnd _, .closeBrace => reader.push (.object [])
  | .nameOrEnd fields, .text name | .name fields, .text name =>
      some { reader with expected := .colon fields name }
  | .colon fields name, .colon =>
      some ⟨.object fields name :: reader.frames, .value⟩
  | .separator last, .comma =>
      match reader.frames with
      | .array items :: frames => some ⟨.array (last :: items) :: frames, .value⟩
      | .object fields name :: frames => some ⟨frames, .name ((name, last) :: fields)⟩
      | [] => none
  | .separator last, .closeBracket => reader.close? last true
  | .separator last, .closeBrace => reader.close? last false
  | _, _ => none

/-- The value of a text that has been read to its end. -/
def finish? (reader : Reader) : Option Json :=
  match reader with
  | ⟨[], .separator value⟩ => some value
  | _ => none

end Reader

/-- The value that tokens stand for. -/
def ofTokens? (tokens : List Token) : Option Json := do
  let reader ← tokens.foldlM Reader.step? ⟨[], .value⟩
  reader.finish?

/-- The value that a text stands for. -/
def parse? (text : String) : Option Json :=
  (Token.scan? text).bind ofTokens?

end TablePartitioning.Json
