import TablePartitioning.Toml.Moment
import TablePartitioning.Toml.Number
import TablePartitioning.Toml.Table
import TablePartitioning.Toml.Text

/-!
# Keys and values in TOML

A value is a text, a number, a truth value, a date, a list in brackets or a table in braces; lists
and tables may go on over several lines and end in a comma.
-/

namespace TablePartitioning.Toml

/-- Characters of keys without quotation marks. -/
def isBareKeyChar (c : Char) : Bool :=
  c.isAlphanum || c = '_' || c = '-'

/-- A key without points. -/
def simpleKey? (chars : List Char) : Option (String × List Char) :=
  match chars with
  | [] => none
  | first :: rest =>
      if first = '"' || first = '\'' then
        (shortText? first chars.length rest).map fun (key, rest) => (String.ofList key, rest)
      else
        match chars.takeWhile isBareKeyChar with
        | [] => none
        | key => some (String.ofList key, chars.dropWhile isBareKeyChar)

/-- The keys between points, and what follows blanks after them; the fuel bounds their number. -/
def key? : Nat → List Char → Option (List String × List Char)
  | 0, _ => none
  | fuel + 1, chars => do
      let (key, rest) ← simpleKey? (skipSpaces chars)
      match skipSpaces rest with
      | '.' :: rest =>
          let (keys, rest) ← key? fuel rest
          return (key :: keys, rest)
      | rest => return ([key], rest)

/-- Characters of numbers, dates and words. -/
def isWordChar (c : Char) : Bool :=
  c.isAlphanum || c = '_' || c = '+' || c = '-' || c = '.' || c = ':'

/-- The value of a word. -/
def word? (chars : List Char) : Option Json :=
  if chars = "true".toList then some (.bool true)
  else if chars = "false".toList then some (.bool false)
  else
    match number? chars with
    | some value => some value
    | none => (moment? chars).map .string

/-- A word and what follows it; a blank may stand between a date and a time. -/
def scalar? (chars : List Char) : Option (Json × List Char) :=
  let word := chars.takeWhile isWordChar
  match (date? word).isSome && word.length = 10, chars.drop word.length with
  | true, ' ' :: c :: rest =>
      if c.isDigit then
        let time := (c :: rest).takeWhile isWordChar
        (word? (word ++ ' ' :: time)).map fun value => (value, (c :: rest).drop time.length)
      else (word? word).map fun value => (value, ' ' :: c :: rest)
  | _, rest => (word? word).map fun value => (value, rest)

/-- The greatest number of lists and tables around a value. -/
def maxDepth : Nat := 79

mutual

/-- A value and what follows it; the fuel bounds the number of its parts. -/
def value? : Nat → Nat → List Char → Option (Json × List Char)
  | 0, _, _ => none
  | fuel + 1, depth, chars =>
      match chars with
      | [] => none
      | first :: rest =>
          if first = '"' || first = '\'' then
            (text? chars).map fun (text, rest) => (.string text, rest)
          else if first = '[' then
            if depth < maxDepth then items? fuel (depth + 1) [] rest else none
          else if first = '\x7b' then
            if depth < maxDepth then fields? fuel (depth + 1) [] rest else none
          else scalar? chars

/-- The items of a list, after those that have been read, last first. -/
def items? : Nat → Nat → List Json → List Char → Option (Json × List Char)
  | 0, _, _, _ => none
  | fuel + 1, depth, items, chars => do
      match ← skipLines? false chars with
      | ']' :: rest => return (.array items.reverse, rest)
      | start =>
          let (item, rest) ← value? fuel depth start
          match ← skipLines? false rest with
          | ',' :: rest => items? fuel depth (item :: items) rest
          | ']' :: rest => return (.array (item :: items).reverse, rest)
          | _ => none

/-- The fields of a table, after those that have been read. -/
def fields? : Nat → Nat → Entries → List Char → Option (Json × List Char)
  | 0, _, _, _ => none
  | fuel + 1, depth, entries, chars => do
      match ← skipLines? false chars with
      | '\x7d' :: rest => return (entries.toJson, rest)
      | start =>
          let (keys, rest) ← key? start.length start
          let rest ← after? '=' rest
          let (value, rest) ← value? fuel depth (skipSpaces rest)
          let entries ← entries.assign value true keys
          match ← skipLines? false rest with
          | ',' :: rest => fields? fuel depth entries rest
          | '\x7d' :: rest => return (entries.toJson, rest)
          | _ => none

end

end TablePartitioning.Toml
