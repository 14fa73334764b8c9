/-!
# Statements from fragments

A statement is its head followed by fragments, joined by single blanks; a clause list stands
between parentheses with its items separated by commas.  Separators stand between items only.  A
text stands in a statement between apostrophes, and an apostrophe inside it is written twice.
-/

namespace TablePartitioning.Ddl

/-- Items between parentheses. -/
structure ClauseList where
  items : List String
deriving DecidableEq

namespace ClauseList

/-- A list without items. -/
def empty : ClauseList := ⟨[]⟩

/-- Add an item at the end. -/
def push (list : ClauseList) (item : String) : ClauseList := ⟨list.items ++ [item]⟩

/-- Add items at the end. -/
def extend (list : ClauseList) (items : List String) : ClauseList := ⟨list.items ++ items⟩

/-- The number of items. -/
def length (list : ClauseList) : Nat := list.items.length

/-- Whether there are no items. -/
def isEmpty (list : ClauseList) : Bool := list.items.isEmpty

/-- The list as a statement shows it. -/
def text (list : ClauseList) : String := "(" ++ ", ".intercalate list.items ++ ")"

end ClauseList

/-- A statement that is being written. -/
structure Fragments where
  head : String
  tail : List String
deriving DecidableEq

namespace Fragments

/-- A statement with no fragment after its head. -/
def ofHead (head : String) : Fragments := ⟨head, []⟩

/-- Add a fragment, unless it is empty. -/
def push (statement : Fragments) (fragment : String) : Fragments :=
  if fragment = "" then statement else { statement with tail := statement.tail ++ [fragment] }

/-- Add a fragment where a condition holds. -/
def pushIf (statement : Fragments) (condition : Bool) (fragment : String) : Fragments :=
  if condition then statement.push fragment else statement

/-- The text of the statement. -/
def text (statement : Fragments) : String := " ".intercalate (statement.head :: statement.tail)

end Fragments

/-! ## Text literals -/

namespace Literal

/-- Every apostrophe twice. -/
def doubled : List Char → List Char
  | [] => []
  | c :: rest => if c = '\'' then '\'' :: '\'' :: doubled rest else c :: doubled rest

/-- The literal of a text, in characters. -/
def quoteChars (chars : List Char) : List Char :=
  '\'' :: (doubled chars ++ ['\''])

/-- The literal of a text. -/
def quote (text : String) : String :=
  String.ofList (quoteChars text.toList)

end Literal

end TablePartitioning.Ddl
