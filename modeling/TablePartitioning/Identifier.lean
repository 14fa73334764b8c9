import TablePartitioning.Text.Basic

/-!
# Identifiers

A partition is named by a plain identifier or by any text between two backquotes.  Backquotes are
not part of the name itself; a server that does not know them is given the name without them.
-/

namespace TablePartitioning.Identifier

/-- The quote around identifiers. -/
def backquote : Char := '\x60'

/-- Characters that an identifier without quotes is made of. -/
def isPlainChar (c : Char) : Bool :=
  Text.isAsciiAlphanumeric c || c = '_' || c = '$'

/-- A text of plain characters, at least one. -/
def isPlain (chars : List Char) : Bool :=
  !chars.isEmpty && chars.all isPlainChar

/-- What stands between a backquote at the start and another at the end. -/
def quoted? : List Char → Option (List Char)
  | [] => none
  | first :: rest =>
      if first = backquote && rest.getLast? = some backquote then some rest.dropLast else none

/-- Whether characters name a partition. -/
def isValidChars (chars : List Char) : Bool :=
  match quoted? chars with
  | some inner => !inner.isEmpty && !inner.contains backquote
  | none => isPlain chars

/-- Whether a text names a partition. -/
def isValid (text : String) : Bool :=
  isValidChars text.toList

/-- A text without the backquotes at its ends. -/
def unquoted (text : String) : String :=
  String.ofList (Text.trimWhere (· = backquote) text.toList)

end TablePartitioning.Identifier
