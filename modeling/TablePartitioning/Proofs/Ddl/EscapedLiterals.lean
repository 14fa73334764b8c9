import Mathlib.Tactic.SplitIfs
import TablePartitioning.Ddl.AlterTable

/-!
# Literals as a server with escapes reads them

Where tables are divided in place, the server reads a backslash inside a literal together with the
character after it, and takes quotation marks for apostrophes.  `Passage.ofText?` reads a statement
by that rule into its literals and the code between them.  Apostrophes are written twice for such a
server too, but backslashes are not, so that a literal stands for the text that it was written for
only where no backslash meets a character that it changes.
-/

namespace TablePartitioning.Ddl

/-- A stretch of a statement: a literal, by the text that it stands for, or what is written between
literals. -/
inductive Passage where
  | code (text : String)
  | literal (text : String)
deriving DecidableEq

namespace Passage

/-! ## The reader -/

/-- What the next character outside of literals belongs to. -/
inductive Region where
  | plain
  /-- A name between backquotes. -/
  | name
  | dash
  | dashes
  | slash
  /-- After a slash and a star, where an exclamation mark makes code of a comment. -/
  | opening
  | block
  | star
  /-- A comment up to the end of the line. -/
  | line
deriving DecidableEq

namespace Region

/-- Whether a literal may begin. -/
def takesLiterals : Region → Bool
  | .plain | .dash | .dashes | .slash => true
  | .name | .opening | .block | .star | .line => false

/-- Whether a statement may end. -/
def isComplete : Region → Bool
  | .plain | .dash | .dashes | .slash | .line => true
  | .name | .opening | .block | .star => false

/-- Blanks and control characters. -/
def isBlank (c : Char) : Bool :=
  c.toNat ≤ 32 || c.toNat = 127

/-- After a character that nothing before it changes. -/
def start (c : Char) : Region :=
  if c = '\x60' then .name
  else if c = '-' then .dash
  else if c = '/' then .slash
  else if c = '#' then .line
  else .plain

/-- After a character. -/
def next : Region → Char → Region
  | .plain, c => start c
  | .name, c => if c = '\x60' then .plain else .name
  | .dash, c => if c = '-' then .dashes else start c
  | .dashes, c =>
      if c = '-' then .dashes
      else if c = '\n' then .plain
      else if isBlank c then .line
      else start c
  | .slash, c => if c = '*' then .opening else start c
  | .opening, c => if c = '!' then .plain else if c = '*' then .star else .block
  | .block, c => if c = '*' then .star else .block
  | .star, c => if c = '/' then .plain else if c = '*' then .star else .block
  | .line, c => if c = '\n' then .plain else .line

end Region

/-- What has been read of the passage that the next character belongs to. -/
inductive Mode where
  | code (region : Region) (chars : List Char)
  | literal (mark : Char) (chars : List Char)
  /-- After a backslash in a literal. -/
  | escape (mark : Char) (chars : List Char)
  /-- After the mark of a literal, which ends the literal or is the first of two. -/
  | ending (mark : Char) (chars : List Char)
deriving DecidableEq

/-- What a backslash and a character stand for. -/
def escaped (c : Char) : List Char :=
  if c = '%' || c = '_' then ['\\', c]
  else if c = '0' then ['\x00']
  else if c = 'b' then ['\x08']
  else if c = 'n' then ['\n']
  else if c = 'r' then ['\r']
  else if c = 't' then ['\t']
  else if c = 'Z' then ['\x1a']
  else [c]

namespace Mode

/-- A character outside of literals. -/
def outside (region : Region) (chars : List Char) (c : Char) : List Passage × Mode :=
  if region.takesLiterals && (c = '\'' || c = '"') then
    ([.code (String.ofList chars)], .literal c [])
  else ([], .code (region.next c) (chars ++ [c]))

/-- What a character completes, and what comes after it. -/
def step : Mode → Char → List Passage × Mode
  | .code region chars, c => outside region chars c
  | .literal mark chars, c =>
      if c = '\\' then ([], .escape mark chars)
      else if c = mark then ([], .ending mark chars)
      else ([], .literal mark (chars ++ [c]))
  | .escape mark chars, c => ([], .literal mark (chars ++ escaped c))
  | .ending mark chars, c =>
      if c = mark then ([], .literal mark (chars ++ [c]))
      else
        let (completed, next) := outside .plain [] c
        (.literal (String.ofList chars) :: completed, next)

/-- The last passage; literals, names and comments between stars have to be closed. -/
def finish? : Mode → Option (List Passage)
  | .code region chars =>
      if !region.isComplete then none
      else if chars.isEmpty then some []
      else some [.code (String.ofList chars)]
  | .ending _ chars => some [.literal (String.ofList chars)]
  | .literal _ _ | .escape _ _ => none

/-- The passages of a text. -/
def read? : Mode → List Char → Option (List Passage)
  | mode, [] => mode.finish?
  | mode, c :: rest =>
      let (completed, next) := mode.step c
      (read? next rest).map (completed ++ ·)

end Mode

/-- The passages of a statement. -/
def ofText? (text : String) : Option (List Passage) :=
  Mode.read? (.code .plain []) text.toList

example : ofText? "x = 'it''s \\'n\\\\\\_' -- 'x'" =
    some [.code "x = ", .literal "it's 'n\\\\_", .code " -- 'x'"] := by
  decide

namespace Mode

/-! ## Code between literals -/

theorem read?_cons (mode : Mode) (c : Char) (rest : List Char) :
    mode.read? (c :: rest) = ((mode.step c).2.read? rest).map ((mode.step c).1 ++ ·) := rfl

theorem read?_code {chars : List Char} (unquoted : chars.all (fun c => c ≠ '\'' && c ≠ '"') = true)
    (region : Region) (before rest : List Char) :
    read? (.code region before) (chars ++ rest) =
      read? (.code (chars.foldl Region.next region) (before ++ chars)) rest := by
  induction chars generalizing region before with
  | nil => simp
  | cons c more inductionHypothesis =>
      simp only [List.all_cons, Bool.and_eq_true, decide_eq_true_eq, ne_eq] at unquoted
      rcases unquoted with ⟨⟨apostrophe, quotation⟩, later⟩
      have passed : step (.code region before) c = ([], .code (region.next c) (before ++ [c])) := by
        simp [step, outside, apostrophe, quotation]
      rw [List.cons_append, read?_cons, passed]
      simpa using inductionHypothesis later (region.next c) (before ++ [c])

/-- A literal that is not continued is complete. -/
theorem read?_ending {mark : Char} {rest : List Char} (apart : rest.head? ≠ some mark)
    (chars : List Char) :
    read? (.ending mark chars) rest =
      (read? (.code .plain []) rest).map (.literal (String.ofList chars) :: ·) := by
  cases rest with
  | nil => rfl
  | cons c more =>
      have different : c ≠ mark := by simpa using apart
      simp only [read?_cons, step, if_neg different, Option.map_map]
      rfl

/-- What a literal was found to hold. -/
def held? : Mode → Option (List Char)
  | .code _ _ => none
  | .literal _ chars | .escape _ chars | .ending _ chars => some chars

/-- A character adds to what a literal holds, or shows that the literal is complete. -/
theorem step_of_held {mode : Mode} {chars : List Char} (held : mode.held? = some chars) (c : Char) :
    (∃ next added, mode.step c = ([], next) ∧ next.held? = some (chars ++ added)) ∨
      ∃ completed, (mode.step c).1 = .literal (String.ofList chars) :: completed := by
  cases mode with
  | code region before => cases held
  | literal mark inside =>
      cases held
      left
      simp only [step]
      split
      · exact ⟨_, [], rfl, by rw [List.append_nil]; rfl⟩
      · split
        · exact ⟨_, [], rfl, by rw [List.append_nil]; rfl⟩
        · exact ⟨_, [c], rfl, rfl⟩
  | escape mark inside =>
      cases held
      exact .inl ⟨_, escaped c, rfl, rfl⟩
  | ending mark inside =>
      cases held
      simp only [step]
      split
      · exact .inl ⟨_, [c], rfl, rfl⟩
      · exact .inr ⟨_, rfl⟩

/-- What a literal was found to hold stays the beginning of the text that it stands for. -/
theorem literal_of_read? {mode : Mode} {chars input : List Char} {first : Passage}
    {later : List Passage} (held : mode.held? = some chars)
    (complete : mode.read? input = some (first :: later)) :
    ∃ more, first = .literal (String.ofList (chars ++ more)) := by
  induction input generalizing mode chars with
  | nil =>
      cases mode with
      | code region before => cases held
      | literal mark inside => cases complete
      | escape mark inside => cases complete
      | ending mark inside =>
          cases held
          cases complete
          exact ⟨[], by rw [List.append_nil]⟩
  | cons c rest inductionHypothesis =>
      rw [read?_cons] at complete
      rcases step_of_held held c with ⟨next, added, silent, holds⟩ | ⟨completed, ended⟩
      · rw [silent] at complete
        rcases inductionHypothesis holds (by simpa using complete) with ⟨more, same⟩
        exact ⟨added ++ more, by rw [same, List.append_assoc]⟩
      · rcases Option.map_eq_some_iff.mp complete with ⟨last, _, joined⟩
        rw [ended] at joined
        cases joined
        exact ⟨[], by rw [List.append_nil]⟩

theorem eq_of_read? {mark c expected : Char} {input : List Char} {later : List Passage}
    (before after : List Char)
    (complete : read? (.literal mark (before ++ [c])) input =
      some (.literal (String.ofList (before ++ expected :: after)) :: later)) : c = expected := by
  rcases literal_of_read? rfl complete with ⟨more, same⟩
  have chars := String.ofList_inj.mp (Passage.literal.inj same)
  rw [List.append_assoc, List.append_cancel_left_eq] at chars
  exact (List.cons.inj chars).1.symm

end Mode

/-! ## Texts between apostrophes -/

open Literal

/-- Every backslash stands right before a percent sign or an underscore, with which it stands for
itself. -/
def Harmless : List Char → Prop
  | [] => True
  | c :: rest =>
      (c = '\\' → rest.head? = some '%' ∨ rest.head? = some '_') ∧ Harmless rest

theorem escaped_wildcard {c : Char} (wildcard : c = '%' ∨ c = '_') :
    escaped c = ['\\', c] ∧ c ≠ '\\' ∧ c ≠ '\'' := by
  rcases wildcard with rfl | rfl
  · decide
  · decide

theorem escaped_cases (c : Char) :
    (c = '%' ∨ c = '_') ∨ c = '\\' ∧ escaped c = ['\\'] ∨
      ∃ other, other ≠ '\\' ∧ escaped c = [other] := by
  by_cases wildcard : c = '%' ∨ c = '_'
  · exact .inl wildcard
  · by_cases backslash : c = '\\'
    · subst backslash
      exact .inr (.inl ⟨rfl, rfl⟩)
    · right
      right
      unfold escaped
      rw [if_neg (by simpa using wildcard)]
      split_ifs
      case neg => exact ⟨c, backslash, rfl⟩
      all_goals exact ⟨_, by decide, rfl⟩

namespace Mode

variable {before chars rest : List Char} {c : Char}

theorem read?_backslash :
    read? (.literal '\'' before) (doubled ('\\' :: chars) ++ rest) =
      read? (.escape '\'' before) (doubled chars ++ rest) := by
  simp [doubled, read?_cons, step]

theorem read?_other (other : c ≠ '\\') :
    read? (.literal '\'' before) (doubled (c :: chars) ++ rest) =
      read? (.literal '\'' (before ++ [c])) (doubled chars ++ rest) := by
  by_cases apostrophe : c = '\''
  · subst apostrophe
    simp [doubled, read?_cons, step]
  · simp [doubled, read?_cons, step, apostrophe, other]

theorem read?_closing :
    read? (.literal '\'' before) (doubled [] ++ '\'' :: rest) =
      read? (.ending '\'' before) rest := by
  simp [doubled, read?_cons, step]

theorem read?_escaped_closing :
    read? (.escape '\'' before) (doubled [] ++ '\'' :: rest) =
      read? (.literal '\'' (before ++ ['\''])) rest := by
  have stands : escaped '\'' = ['\''] := rfl
  simp [doubled, read?_cons, step, stands]

/-- Behind a backslash the first of two apostrophes is left alone. -/
theorem read?_escaped (c : Char) (before chars rest : List Char) :
    ∃ input, read? (.escape '\'' before) (doubled (c :: chars) ++ rest) =
      read? (.literal '\'' (before ++ escaped c)) input ∧
        (c ≠ '\'' → input = doubled chars ++ rest) := by
  by_cases apostrophe : c = '\''
  · subst apostrophe
    refine ⟨'\'' :: (doubled chars ++ rest), ?_, fun other => absurd rfl other⟩
    simp [doubled, read?_cons, step]
  · refine ⟨doubled chars ++ rest, ?_, fun _ => rfl⟩
    simp [doubled, read?_cons, step, apostrophe]

/-- A harmless text is read as it is, also behind a backslash that it goes with. -/
theorem read?_doubled_of_harmless (harmless : Harmless chars) :
    (∀ before, read? (.literal '\'' before) (doubled chars ++ '\'' :: rest) =
      read? (.ending '\'' (before ++ chars)) rest) ∧
    (chars.head? = some '%' ∨ chars.head? = some '_' →
      ∀ before, read? (.escape '\'' before) (doubled chars ++ '\'' :: rest) =
        read? (.ending '\'' (before ++ '\\' :: chars)) rest) := by
  induction chars with
  | nil =>
      constructor
      · intro before
        rw [read?_closing, List.append_nil]
      · simp
  | cons c more inductionHypothesis =>
      rcases inductionHypothesis harmless.2 with ⟨plainly, escaping⟩
      constructor
      · intro before
        by_cases backslash : c = '\\'
        · subst backslash
          rw [read?_backslash, escaping (harmless.1 rfl)]
        · rw [read?_other backslash, plainly, List.append_assoc]
          rfl
      · intro wild before
        have wildcard : c = '%' ∨ c = '_' := by simpa using wild
        rcases escaped_wildcard wildcard with ⟨kept, _, notApostrophe⟩
        rcases read?_escaped c before more ('\'' :: rest) with ⟨input, passed, same⟩
        rw [passed, same notApostrophe, plainly, kept, List.append_assoc]
        rfl

theorem replicate_append_backslash (count : Nat) (chars : List Char) :
    List.replicate count '\\' ++ '\\' :: chars = List.replicate (count + 1) '\\' ++ chars := by
  rw [List.append_cons, ← List.replicate_succ']

/-- Where two backslashes have stood for one, the literal can make up for it no more: it needs as
many backslashes as it lags behind, and each of them costs two. -/
theorem read?_ne_of_lagging (apart : rest.head? ≠ some '\'') :
    (∀ before count later, read? (.literal '\'' before) (doubled chars ++ '\'' :: rest) ≠
      some (.literal (String.ofList (before ++ (List.replicate (count + 1) '\\' ++ chars))) ::
        later)) ∧
    ∀ before count later, read? (.escape '\'' before) (doubled chars ++ '\'' :: rest) ≠
      some (.literal (String.ofList
        (before ++ (List.replicate (count + 1) '\\' ++ '\\' :: chars))) :: later) := by
  -- On the text, in both modes at once: a backslash leads from the first to the second, and from
  -- there back to the first with another backslash missing.
  induction chars with
  | nil =>
      constructor
      · intro before count later complete
        rw [read?_closing, read?_ending apart] at complete
        rcases Option.map_eq_some_iff.mp complete with ⟨_, _, same⟩
        have chars := String.ofList_inj.mp (Passage.literal.inj (List.cons.inj same).1)
        simp [List.replicate_succ] at chars
      · intro before count later complete
        rw [read?_escaped_closing, List.replicate_succ] at complete
        exact absurd (eq_of_read? _ _ complete) (by decide)
  | cons c more inductionHypothesis =>
      rcases inductionHypothesis with ⟨plainly, escaping⟩
      constructor
      · intro before count later complete
        by_cases backslash : c = '\\'
        · subst backslash
          rw [read?_backslash] at complete
          exact escaping before count later complete
        · rw [read?_other backslash, List.replicate_succ] at complete
          exact backslash (eq_of_read? _ _ complete)
      · intro before count later complete
        rcases read?_escaped c before more ('\'' :: rest) with ⟨input, passed, same⟩
        rw [passed] at complete
        rcases escaped_cases c with wildcard | ⟨rfl, stands⟩ | ⟨other, different, stands⟩
        · rcases escaped_wildcard wildcard with ⟨stands, notBackslash, _⟩
          have expected : before ++ (List.replicate (count + 1) '\\' ++ '\\' :: c :: more) =
              before ++ ['\\'] ++ '\\' :: (List.replicate count '\\' ++ c :: more) := by
            rw [replicate_append_backslash, List.append_assoc]
            rfl
          rw [stands, expected, ← List.singleton_append, ← List.append_assoc] at complete
          exact notBackslash (eq_of_read? _ _ complete)
        · have expected : before ++ (List.replicate (count + 1) '\\' ++ '\\' :: '\\' :: more) =
              before ++ ['\\'] ++ (List.replicate (count + 1 + 1) '\\' ++ more) := by
            rw [replicate_append_backslash, replicate_append_backslash, List.append_assoc]
            rfl
          rw [stands, same (by decide), expected] at complete
          exact plainly (before ++ ['\\']) (count + 1) later complete
        · rw [stands, List.replicate_succ] at complete
          exact different (eq_of_read? _ _ complete)

/-- A text that is read as it is was harmless: behind any other backslash the literal goes on with
another character, or lags behind by the backslash. -/
theorem harmless_of_read? (apart : rest.head? ≠ some '\'') :
    (∀ before later, read? (.literal '\'' before) (doubled chars ++ '\'' :: rest) =
        some (.literal (String.ofList (before ++ chars)) :: later) → Harmless chars) ∧
    ∀ before later, read? (.escape '\'' before) (doubled chars ++ '\'' :: rest) =
        some (.literal (String.ofList (before ++ '\\' :: chars)) :: later) →
      (chars.head? = some '%' ∨ chars.head? = some '_') ∧ Harmless chars := by
  induction chars with
  | nil =>
      constructor
      · intro before later complete
        trivial
      · intro before later complete
        rw [read?_escaped_closing] at complete
        exact absurd (eq_of_read? _ _ complete) (by decide)
  | cons c more inductionHypothesis =>
      rcases inductionHypothesis with ⟨plainly, escaping⟩
      constructor
      · intro before later complete
        by_cases backslash : c = '\\'
        · subst backslash
          rw [read?_backslash] at complete
          rcases escaping before later complete with ⟨wildcard, harmless⟩
          exact ⟨fun _ => wildcard, harmless⟩
        · rw [read?_other backslash] at complete
          have harmless := plainly (before ++ [c]) later (by rw [complete, List.append_assoc]; rfl)
          exact ⟨fun same => absurd same backslash, harmless⟩
      · intro before later complete
        rcases read?_escaped c before more ('\'' :: rest) with ⟨input, passed, same⟩
        rw [passed] at complete
        rcases escaped_cases c with wildcard | ⟨rfl, stands⟩ | ⟨other, different, stands⟩
        · rcases escaped_wildcard wildcard with ⟨stands, notBackslash, notApostrophe⟩
          rw [stands, same notApostrophe] at complete
          have harmless := plainly (before ++ ['\\', c]) later (by
            rw [complete, List.append_assoc]; rfl)
          refine ⟨?_, fun same => absurd same notBackslash, harmless⟩
          simpa using wildcard
        · rw [stands, same (by decide)] at complete
          have expected : before ++ '\\' :: '\\' :: more =
              before ++ ['\\'] ++ (List.replicate (0 + 1) '\\' ++ more) := by
            rw [List.append_assoc]
            rfl
          rw [expected] at complete
          exact ((read?_ne_of_lagging apart).1 (before ++ ['\\']) 0 later complete).elim
        · rw [stands] at complete
          exact absurd (eq_of_read? _ _ complete) different

end Mode

/-- Code without literals, with nothing open at its end. -/
structure Unquoted (text : String) : Prop where
  marks : text.toList.all (fun c => c ≠ '\'' && c ≠ '"') = true
  settled : text.toList.foldl Region.next .plain = .plain

theorem Unquoted.append {first second : String} (early : Unquoted first)
    (late : Unquoted second) : Unquoted (first ++ second) where
  marks := by rw [String.toList_append, List.all_append, early.marks, late.marks]; rfl
  settled := by rw [String.toList_append, List.foldl_append, early.settled, late.settled]

/-- A literal begins after code. -/
theorem Unquoted.read? {text : String} (unquoted : Unquoted text) (rest : List Char) :
    Mode.read? (.code .plain []) (text.toList ++ '\'' :: rest) =
      (Mode.read? (.literal '\'' []) rest).map (.code text :: ·) := by
  have opened : Mode.step (.code .plain text.toList) '\'' = ([.code text], .literal '\'' []) := by
    simp [Mode.step, Mode.outside, Region.takesLiterals]
  rw [Mode.read?_code unquoted.marks, unquoted.settled, List.nil_append, Mode.read?_cons, opened]
  rfl

/-! ## The query for the partitions of a table -/

/-- The query up to the schema. -/
def beforeSchema : String :=
  "SELECT \x60PARTITION_NAME\x60, \x60SUBPARTITION_NAME\x60, " ++
    "\x60PARTITION_ORDINAL_POSITION\x60, \x60TABLE_ROWS\x60, \x60PARTITION_METHOD\x60 " ++
    "FROM \x60information_schema\x60.\x60PARTITIONS\x60 WHERE \x60TABLE_SCHEMA\x60 = "

/-- The query between the schema and the table. -/
def beforeTable : String :=
  " AND \x60TABLE_NAME\x60 = "

theorem unquoted_beforeSchema : Unquoted beforeSchema := by
  apply Unquoted.append
  · apply Unquoted.append
    · exact ⟨by decide, by decide⟩
    · exact ⟨by decide, by decide⟩
  · exact ⟨by decide, by decide⟩

theorem unquoted_beforeTable : Unquoted beforeTable := by
  exact ⟨by decide, by decide⟩

theorem toList_listing (schema table : String) :
    (AlterTable.listing schema table).toList =
      beforeSchema.toList ++ '\'' :: (doubled schema.toList ++ '\'' ::
        (beforeTable.toList ++ '\'' :: (doubled table.toList ++ ['\'']))) := by
  have written : AlterTable.listing schema table =
      beforeSchema ++ quote schema ++ beforeTable ++ quote table := rfl
  rw [written]
  simp only [String.toList_append, quote, String.toList_ofList, quoteChars, List.append_assoc,
    List.cons_append, List.nil_append]

/-- The query is read from its first literal on. -/
theorem ofText?_listing (schema table : String) :
    ofText? (AlterTable.listing schema table) =
      (Mode.read? (.literal '\'' []) (doubled schema.toList ++ '\'' ::
        (beforeTable.toList ++ '\'' :: (doubled table.toList ++ ['\''])))).map
          (.code beforeSchema :: ·) := by
  rw [ofText?, toList_listing]
  exact unquoted_beforeSchema.read? _

/-- Between its literals the query goes on as it is written. -/
theorem read?_beforeTable (chars rest : List Char) :
    Mode.read? (.ending '\'' chars) (beforeTable.toList ++ '\'' :: rest) =
      (Mode.read? (.literal '\'' []) rest).map
        ([.literal (String.ofList chars), .code beforeTable] ++ ·) := by
  have apart : (beforeTable.toList ++ '\'' :: rest).head? ≠ some '\'' := by
    simp [beforeTable]
  rw [Mode.read?_ending apart, unquoted_beforeTable.read?, Option.map_map]
  rfl

/-- The query consists of its own code and of two literals that stand for the schema and the table
for those schemas and tables alone whose backslashes are harmless. -/
theorem listing_readsBack_iff (schema table : String) :
    ofText? (AlterTable.listing schema table) =
        some [.code beforeSchema, .literal schema, .code beforeTable, .literal table] ↔
      Harmless schema.toList ∧ Harmless table.toList := by
  have apart : (beforeTable.toList ++ '\'' :: (doubled table.toList ++ ['\''])).head? ≠
      some '\'' := by
    simp [beforeTable]
  have alone : ([] : List Char).head? ≠ some '\'' := by simp
  rw [ofText?_listing]
  constructor
  · intro complete
    rcases Option.map_eq_some_iff.mp complete with ⟨passages, fromSchema, same⟩
    cases same
    have schemaHarmless : Harmless schema.toList := by
      apply (Mode.harmless_of_read? apart).1 []
      rw [fromSchema, List.nil_append, String.ofList_toList]
    refine ⟨schemaHarmless, ?_⟩
    rw [(Mode.read?_doubled_of_harmless schemaHarmless).1, read?_beforeTable] at fromSchema
    rcases Option.map_eq_some_iff.mp fromSchema with ⟨last, fromTable, same⟩
    have remaining : last = [.literal table] := by simpa using same
    apply (Mode.harmless_of_read? alone).1 [] []
    rw [fromTable, remaining, List.nil_append, String.ofList_toList]
  · rintro ⟨schemaHarmless, tableHarmless⟩
    rw [(Mode.read?_doubled_of_harmless schemaHarmless).1, read?_beforeTable,
      (Mode.read?_doubled_of_harmless tableHarmless).1, Mode.read?_ending alone]
    simp [Mode.read?, Mode.finish?, Region.isComplete]

/-- A schema that is a backslash takes the end of its literal away, so that the condition on the
table becomes part of the literal, and the table part of the code. -/
theorem backslash_swallowsCondition :
    ofText? (AlterTable.listing "\\" " OR 1=1 -- ") =
        some [.code beforeSchema, .literal "' AND \x60TABLE_NAME\x60 = ",
          .code " OR 1=1 -- '"] ∧
      ofText? (AlterTable.listing "\\" " OR 1=1 -- ") ≠
        some [.code beforeSchema, .literal "\\", .code beforeTable, .literal " OR 1=1 -- "] := by
  have swallowed : Mode.read? (.literal '\'' []) (doubled "\\".toList ++ '\'' ::
      (beforeTable.toList ++ '\'' :: (doubled " OR 1=1 -- ".toList ++ ['\'']))) =
        some [.literal "' AND \x60TABLE_NAME\x60 = ", .code " OR 1=1 -- '"] := by
    decide
  rw [ofText?_listing, swallowed]
  constructor
  · rfl
  · simp

end Passage

end TablePartitioning.Ddl
