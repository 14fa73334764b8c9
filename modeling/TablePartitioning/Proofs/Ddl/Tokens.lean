import TablePartitioning.Ddl.PartitionOf
import TablePartitioning.Proofs.Ddl.Literal

/-!
# Statements as a server reads them

A statement is read character by character into words, names, literals and signs; blanks and
comments lie between them.  Inside a literal nothing but an apostrophe has a meaning, and a
backslash stands for itself.  A text that is written as a literal is therefore one token, whatever
it imitates, and the tokens around it are those of the statement.  Literals with a letter before
the first apostrophe and texts between dollar signs, which no statement here begins, are left out.
-/

namespace TablePartitioning.Ddl

/-- A part of a statement. -/
inductive Token where
  /-- A keyword, a name without quotes or a number. -/
  | word (text : String)
  /-- A name between quotation marks. -/
  | name (text : String)
  /-- A literal, by the text that it stands for. -/
  | literal (text : String)
  | sign (c : Char)
deriving DecidableEq

namespace Token

/-- What the next character belongs to. -/
inductive Mode where
  | between
  | word (chars : List Char)
  | name (chars : List Char)
  /-- After a quotation mark in a name, which ends the name or is the first of two. -/
  | nameMark (chars : List Char)
  | literal (chars : List Char)
  /-- After an apostrophe in a literal, which ends the literal or is the first of two. -/
  | literalMark (chars : List Char)
  | dash
  | slash
  /-- After two dashes, up to the end of the line. -/
  | lineComment
  /-- After a slash and a star, which may be nested. -/
  | comment (depth : Nat)
  | commentStar (depth : Nat)
  | commentSlash (depth : Nat)
deriving DecidableEq

/-- Characters that separate tokens. -/
def isSpace (c : Char) : Bool :=
  c = ' ' || c = '\t' || c = '\n' || c = '\r' || c = '\x0b' || c = '\x0c'

/-- Characters that words are made of: the plain ones, and all outside of ASCII. -/
def isWordChar (c : Char) : Bool :=
  Identifier.isPlainChar c || 128 ≤ c.toNat

namespace Mode

/-- A character after a complete token. -/
def start (c : Char) : List Token × Mode :=
  if isSpace c then ([], .between)
  else if c = '\'' then ([], .literal [])
  else if c = '"' then ([], .name [])
  else if c = '-' then ([], .dash)
  else if c = '/' then ([], .slash)
  else if isWordChar c then ([], .word [c])
  else ([.sign c], .between)

/-- A token that ends before a character. -/
def after (token : Token) (c : Char) : List Token × Mode :=
  (token :: (start c).1, (start c).2)

/-- What a character completes, and what comes after it. -/
def step : Mode → Char → List Token × Mode
  | .between, c => start c
  | .word chars, c =>
      if isWordChar c then ([], .word (chars ++ [c])) else after (.word (String.ofList chars)) c
  | .name chars, c => if c = '"' then ([], .nameMark chars) else ([], .name (chars ++ [c]))
  | .nameMark chars, c =>
      if c = '"' then ([], .name (chars ++ [c])) else after (.name (String.ofList chars)) c
  | .literal chars, c =>
      if c = '\'' then ([], .literalMark chars) else ([], .literal (chars ++ [c]))
  | .literalMark chars, c =>
      if c = '\'' then ([], .literal (chars ++ [c])) else after (.literal (String.ofList chars)) c
  | .dash, c => if c = '-' then ([], .lineComment) else after (.sign '-') c
  | .slash, c => if c = '*' then ([], .comment 0) else after (.sign '/') c
  | .lineComment, c => if c = '\n' then ([], .between) else ([], .lineComment)
  | .comment depth, c =>
      if c = '*' then ([], .commentStar depth)
      else if c = '/' then ([], .commentSlash depth)
      else ([], .comment depth)
  | .commentStar depth, c =>
      if c = '*' then ([], .commentStar depth)
      else if c ≠ '/' then ([], .comment depth)
      else if depth = 0 then ([], .between)
      else ([], .comment (depth - 1))
  | .commentSlash depth, c =>
      if c = '*' then ([], .comment (depth + 1))
      else if c = '/' then ([], .commentSlash depth)
      else ([], .comment depth)

/-- The tokens that a text completes, and what comes after it. -/
def read : Mode → List Char → List Token × Mode
  | mode, [] => ([], mode)
  | mode, c :: rest =>
      let (completed, next) := mode.step c
      let (later, last) := read next rest
      (completed ++ later, last)

/-- The last token; names, literals and nested comments have to be closed. -/
def finish? : Mode → Option (List Token)
  | .between | .lineComment => some []
  | .word chars => some [.word (String.ofList chars)]
  | .nameMark chars => some [.name (String.ofList chars)]
  | .literalMark chars => some [.literal (String.ofList chars)]
  | .dash => some [.sign '-']
  | .slash => some [.sign '/']
  | .name _ | .literal _ | .comment _ | .commentStar _ | .commentSlash _ => none

end Mode

/-- The tokens of a statement. -/
def ofText? (text : String) : Option (List Token) :=
  let complete := Mode.read .between text.toList
  complete.2.finish?.map (complete.1 ++ ·)

example : ofText? "SET x/2 = 'it''s \\' -- 'x'" =
    some [.word "SET", .word "x", .sign '/', .word "2", .sign '=', .literal "it's \\"] := by
  decide

/-! ## Texts one after the other -/

theorem Mode.read_cons (mode : Mode) (c : Char) (rest : List Char) :
    mode.read (c :: rest) =
      ((mode.step c).1 ++ ((mode.step c).2.read rest).1, ((mode.step c).2.read rest).2) := rfl

theorem Mode.read_append (mode : Mode) (first second : List Char) :
    mode.read (first ++ second) =
      ((mode.read first).1 ++ ((mode.read first).2.read second).1,
        ((mode.read first).2.read second).2) := by
  induction first generalizing mode with
  | nil => rfl
  | cons c rest inductionHypothesis =>
      rw [List.cons_append, read_cons, read_cons, inductionHypothesis, List.append_assoc]

theorem Mode.read_append_of_eq {mode middle last : Mode} {first second : List Char}
    {early late : List Token} (begun : mode.read first = (early, middle))
    (ended : middle.read second = (late, last)) :
    mode.read (first ++ second) = (early ++ late, last) := by
  rw [read_append, begun, ended]

/-- The reader is between tokens after the text when it was before. -/
def Settled (text : String) : Prop :=
  (Mode.read .between text.toList).2 = .between

theorem Settled.exists_read {text : String} (settled : Settled text) :
    ∃ tokens, Mode.read .between text.toList = (tokens, .between) :=
  ⟨_, Prod.ext rfl settled⟩

theorem Settled.append {first second : String} (early : Settled first) (late : Settled second) :
    Settled (first ++ second) := by
  rw [Settled, String.toList_append, Mode.read_append, early]
  exact late

/-- Lines that settle before the next begins. -/
theorem Settled.intercalate {separator last : String} {lines : List String}
    (broken : ∀ line ∈ lines, Settled (line ++ separator)) (ended : Settled last) :
    Settled (separator.intercalate (lines ++ [last])) := by
  induction lines with
  | nil => exact ended
  | cons line rest inductionHypothesis =>
      have early := broken line List.mem_cons_self
      have late := inductionHypothesis fun later member =>
        broken later (List.mem_cons_of_mem line member)
      rw [List.cons_append, String.intercalate_cons_of_ne_nil (by simp)]
      exact early.append late

theorem settled_of_spelled {text : String} {chars : List Char}
    (spelled : text = String.ofList chars) (ends : (Mode.read .between chars).2 = .between) :
    Settled text := by
  rw [Settled, spelled, String.toList_ofList]
  exact ends

theorem settled_broken {line separator : String} {chars broken : List Char}
    (spelled : line = String.ofList chars) (breaks : separator = String.ofList broken)
    (ends : (Mode.read .between (chars ++ broken)).2 = .between) :
    Settled (line ++ separator) := by
  apply settled_of_spelled
  case spelled => rw [spelled, breaks, ← String.ofList_append]
  case ends => exact ends

/-! ## Literals among tokens -/

open Literal

theorem Mode.read_doubled (before chars : List Char) :
    read (.literal before) (doubled chars) = ([], .literal (before ++ chars)) := by
  induction chars generalizing before with
  | nil => simp [doubled, read]
  | cons c rest inductionHypothesis =>
      by_cases apostrophe : c = '\''
      · subst apostrophe
        simp [doubled, read_cons, step, inductionHypothesis]
      · simp [doubled, read_cons, step, apostrophe, inductionHypothesis]

/-- A literal is read to its last apostrophe. -/
theorem Mode.read_quote (text : String) :
    read .between (quote text).toList = ([], .literalMark text.toList) := by
  have inside := read_doubled [] text.toList
  have closing : read (.literal text.toList) ['\''] = ([], .literalMark text.toList) := rfl
  rw [quote, String.toList_ofList, quoteChars]
  exact read_append_of_eq inside closing

/-! ## The query for the partitions of a table -/

open PartitionOf

theorem settled_listingStart : Settled (lineBreak.intercalate listingStart) := by
  have broken : ∀ line ∈ listingStart, Settled (line ++ lineBreak) := by
    rw [listingStart]
    simp only [List.forall_mem_cons]
    refine ⟨?_, ?_, ?_, ?_, ?_, ?methods, ?_, ?_, ?_, ?_, ?_, ?_, ?done⟩
    case methods =>
      rw [String.append_assoc]
      exact (settled_of_spelled rfl rfl).append (settled_broken rfl rfl rfl)
    case done => simp
    all_goals exact settled_broken rfl rfl rfl
  have parted : listingStart = listingStart.dropLast ++ ["WHERE ns.nspname = "] := rfl
  rw [parted]
  apply Settled.intercalate
  case broken =>
    intro line member
    exact broken line (List.dropLast_subset _ member)
  case ended => exact settled_of_spelled rfl rfl

/-- The tokens between the literals of the query. -/
def afterSchema : List Token :=
  [.word "AND", .word "parent", .sign '.', .word "relname", .sign '=']

/-- The tokens after the literals of the query. -/
def afterTable : List Token :=
  [.word "ORDER", .word "BY", .word "child", .sign '.', .word "relname"]

theorem read_afterSchema (schema : String) :
    Mode.read (.literalMark schema.toList) " AND parent.relname = ".toList =
      (.literal schema :: afterSchema, .between) := by
  have begun : Mode.read (.literalMark schema.toList) " AND parent.relname = ".toList =
    (.literal (String.ofList schema.toList) :: afterSchema, .between) := rfl
  rw [begun, String.ofList_toList]

theorem read_afterTable (table : String) :
    Mode.read (.literalMark table.toList) (lineBreak.intercalate listingEnd).toList =
      (.literal table :: afterTable, .between) := by
  have begun : Mode.read (.literalMark table.toList) (lineBreak.intercalate listingEnd).toList =
    (.literal (String.ofList table.toList) :: afterTable, .between) := rfl
  rw [begun, String.ofList_toList]

theorem ofText?_of_read {text : String} {tokens : List Token}
    (complete : Mode.read .between text.toList = (tokens, .between)) :
    ofText? text = some tokens := by
  rw [ofText?, complete]
  simp [Mode.finish?]

theorem ofText?_listing {before : List Token}
    (start : Mode.read .between (lineBreak.intercalate listingStart).toList = (before, .between))
    (schema table : String) :
    ofText? (listing schema table) =
      some (before ++ .literal schema :: (afterSchema ++ .literal table :: afterTable)) := by
  apply ofText?_of_read
  rw [listing, String.toList_append, String.toList_append, String.toList_append,
    String.toList_append]
  have query := Mode.read_append_of_eq (Mode.read_append_of_eq (Mode.read_append_of_eq
    (Mode.read_append_of_eq start (Mode.read_quote schema)) (read_afterSchema schema))
    (Mode.read_quote table)) (read_afterTable table)
  rw [query]
  simp

end Token

/-! ## The literals of other statements -/

/-- What a text begins with, read as a literal, and the text after it. -/
def Literal.read? (text : String) : Option (String × String) :=
  match text.toList with
  | [] => none
  | first :: rest =>
      if first = '\'' then
        (body? rest).map fun (value, left) => (String.ofList value, String.ofList left)
      else none

theorem Literal.read?_quote {text rest : String} (apart : rest.toList.head? ≠ some '\'') :
    read? (quote text ++ rest) = some (text, rest) := by
  have chars : (quote text ++ rest).toList =
      '\'' :: (doubled text.toList ++ '\'' :: rest.toList) := by
    simp [quote, quoteChars, String.toList_append]
  rw [read?, chars]
  simp [body?_doubled text.toList rest.toList apart]

/-- Statements that number the rows of a column by a sequence: two of them name it as it is, and
two by a literal. -/
structure NamesSequence (table : TableName) (field name : String) (statements : List String) :
    Prop where
  count : statements.length = 4
  created : statements[0]? = some ("CREATE SEQUENCE IF NOT EXISTS " ++ name)
  set : ∃ argument, statements[1]? = some ("SELECT SETVAL(" ++ argument) ∧
    Literal.read? argument =
      some (name, ", (SELECT max(" ++ field ++ ") FROM " ++ table.text ++ "))")
  used : ∃ argument,
    statements[2]? = some ("ALTER TABLE " ++ table.text ++ " ALTER COLUMN " ++ field ++
      " SET DEFAULT nextval(" ++ argument) ∧
    Literal.read? argument = some (name, "::regclass)")
  owned : statements[3]? =
    some ("ALTER SEQUENCE " ++ name ++ " OWNED BY " ++ table.text ++ "." ++ field)

theorem autoIncrement_namesSequence (table : TableName) (field : String) :
    NamesSequence table field (table.text ++ "_" ++ field ++ "_seq")
      (PartitionOf.autoIncrement table field) := by
  have name : (PartitionOf.sequence table field).text = table.text ++ "_" ++ field ++ "_seq" := by
    rw [PartitionOf.sequence, TableName.text_child, ← String.append_assoc]
  rw [PartitionOf.autoIncrement, name]
  constructor
  case count => rfl
  case created => rfl
  case set =>
    refine ⟨_, ?_, Literal.read?_quote ?_⟩
    · simp only [List.getElem?_cons_succ, List.getElem?_cons_zero, String.append_assoc]
    · simp [String.toList_append]
  case used =>
    refine ⟨_, ?_, Literal.read?_quote ?_⟩
    · simp only [List.getElem?_cons_succ, List.getElem?_cons_zero, String.append_assoc]
    · simp
  case owned => rfl

/-- Every text that is written as a literal is read back to its last character, and nothing in it
changes how the statement around it is read. -/
theorem literals_readBack :
    (∀ text, Literal.value? (Literal.quote text) = some text) ∧
    (∃ before,
      Token.ofText? (PartitionOf.lineBreak.intercalate PartitionOf.listingStart) = some before ∧
        ∀ schema table, Token.ofText? (PartitionOf.listing schema table) =
          some (before ++ .literal schema ::
            (Token.afterSchema ++ .literal table :: Token.afterTable))) ∧
    ∀ (table : TableName) (field : String),
      NamesSequence table field (table.text ++ "_" ++ field ++ "_seq")
        (PartitionOf.autoIncrement table field) := by
  refine ⟨Literal.value?_quote, ?_, autoIncrement_namesSequence⟩
  obtain ⟨before, start⟩ := Token.settled_listingStart.exists_read
  exact ⟨before, Token.ofText?_of_read start, Token.ofText?_listing start⟩

end TablePartitioning.Ddl
