import Mathlib.Tactic.MkIffOfInductiveProp
import TablePartitioning.Proofs.Text.Identifiers

/-!
# Parentheses and commas

A text is read from left to right, with the number of parentheses that are open and with a comma
that nothing but blanks has followed so far.  A text that begins and ends with nothing open can be
put beside others and between parentheses; one that is not blank can also follow a comma.
-/

namespace TablePartitioning.Text

/-- From a number of open parentheses on, none is closed that is not open. -/
def Nests (depth : Nat) (chars : List Char) : Prop :=
  ∀ first, first <+: chars → first.count ')' ≤ depth + first.count '('

/-- Some comma has, after blanks only, a given character or the end of the text. -/
def CommaBefore (next : Option Char) (chars : List Char) : Prop :=
  ∃ after, ',' :: after <:+ chars ∧ (after.dropWhile isBlank).head? = next

/-- A text without parentheses and commas. -/
def Unmarked (text : String) : Prop :=
  ∀ c ∈ text.toList, c ≠ '(' ∧ c ≠ ')' ∧ c ≠ ','

theorem nests_open {depth : Nat} {rest : List Char} :
    Nests depth ('(' :: rest) ↔ Nests (depth + 1) rest := by
  constructor
  · intro nests first early
    have bound := nests ('(' :: first) (List.cons_prefix_cons.mpr ⟨rfl, early⟩)
    simp at bound
    omega
  · intro nests first early
    rcases List.prefix_cons_iff.mp early with rfl | ⟨later, rfl, inside⟩
    · simp
    · have bound := nests later inside
      simp
      omega

theorem nests_close {depth : Nat} {rest : List Char} :
    Nests depth (')' :: rest) ↔ depth ≠ 0 ∧ Nests (depth - 1) rest := by
  constructor
  · intro nests
    have one := nests [')'] (List.cons_prefix_cons.mpr ⟨rfl, List.nil_prefix⟩)
    simp at one
    refine ⟨by omega, ?_⟩
    intro first early
    have bound := nests (')' :: first) (List.cons_prefix_cons.mpr ⟨rfl, early⟩)
    simp at bound
    omega
  · rintro ⟨positive, nests⟩ first early
    rcases List.prefix_cons_iff.mp early with rfl | ⟨later, rfl, inside⟩
    · simp
    · have bound := nests later inside
      simp
      omega

theorem nests_other {depth : Nat} {c : Char} {rest : List Char} (notOpen : c ≠ '(')
    (notClose : c ≠ ')') : Nests depth (c :: rest) ↔ Nests depth rest := by
  constructor
  · intro nests first early
    have bound := nests (c :: first) (List.cons_prefix_cons.mpr ⟨rfl, early⟩)
    simpa [notOpen, notClose] using bound
  · intro nests first early
    rcases List.prefix_cons_iff.mp early with rfl | ⟨later, rfl, inside⟩
    · simp
    · simpa [notOpen, notClose] using nests later inside

theorem commaBefore_cons {next : Option Char} {c : Char} {rest : List Char} :
    CommaBefore next (c :: rest) ↔
      (c = ',' ∧ (rest.dropWhile isBlank).head? = next) ∨ CommaBefore next rest := by
  simp only [CommaBefore, List.suffix_cons_iff, List.cons.injEq, or_and_right, exists_or,
    and_assoc, exists_and_left, exists_eq_left, eq_comm (a := ',')]

theorem not_commaBefore_nil {next : Option Char} : ¬ CommaBefore next [] := by
  simp [CommaBefore]

/-- A comma with nothing but blanks after it has before it whatever comes next. -/
theorem CommaBefore.concat {c : Char} {chars : List Char} (trailing : CommaBefore none chars)
    (filled : isBlank c = false) : CommaBefore (some c) (chars ++ [c]) := by
  obtain ⟨after, ⟨before, split⟩, blank⟩ := trailing
  refine ⟨after ++ [c], ⟨before, by rw [← split]; simp⟩, ?_⟩
  rw [List.dropWhile_append, List.head?_eq_none_iff.mp blank]
  simp [filled]

/-! ## Character by character -/

/-- What has been read of a text. -/
structure Punctuation where
  /-- The number of parentheses that are open. -/
  depth : Nat
  /-- Whether nothing but blanks stands after the last comma. -/
  comma : Bool
deriving DecidableEq

namespace Punctuation

/-- What a character makes of it. -/
def step (state : Punctuation) (c : Char) : Option Punctuation :=
  if c = '(' then some ⟨state.depth + 1, false⟩
  else if c = ')' then
    if state.comma || state.depth = 0 then none else some ⟨state.depth - 1, false⟩
  else if c = ',' then some ⟨state.depth, true⟩
  else if isBlank c then some state
  else some ⟨state.depth, false⟩

/-- What a text makes of it. -/
def read (state : Punctuation) (chars : List Char) : Option Punctuation := chars.foldlM step state

theorem read_cons (state : Punctuation) (c : Char) (rest : List Char) :
    state.read (c :: rest) = (state.step c).bind (·.read rest) := rfl

theorem read_append (state : Punctuation) (first second : List Char) :
    state.read (first ++ second) = (state.read first).bind (·.read second) := by
  rw [read, List.foldlM_append]
  rfl

/-- The comma that has been read last, if nothing but blanks stands after it. -/
def held (state : Punctuation) : List Char := if state.comma then [','] else []

theorem commaBefore_held {state : Punctuation} {next : Option Char} {chars : List Char} :
    CommaBefore next (state.held ++ chars) ↔
      (state.comma = true ∧ (chars.dropWhile isBlank).head? = next) ∨ CommaBefore next chars := by
  unfold held
  split
  · next comma => simp [comma, commaBefore_cons]
  · next comma => simp [comma]

/-- How a text leads from one state to another, said of the text as a whole. -/
@[mk_iff]
structure Reads (state : Punctuation) (chars : List Char) (last : Punctuation) : Prop where
  nested : Nests state.depth chars
  depth : last.depth + chars.count ')' = state.depth + chars.count '('
  separated : ¬ CommaBefore (some ')') (state.held ++ chars)
  comma : last.comma = true ↔ CommaBefore none (state.held ++ chars)

theorem reads_nil {state last : Punctuation} : Reads state [] last ↔ state = last := by
  obtain ⟨depth, comma⟩ := state
  obtain ⟨lastDepth, lastComma⟩ := last
  have nothing : Nests depth [] := by simp [Nests]
  simp only [reads_iff, commaBefore_held, not_commaBefore_nil]
  cases comma with
  | false => simp [nothing, eq_comm]
  | true => simp [nothing, eq_comm]

/-- A text leads to a state when its first character leads to one that the rest leads on from. -/
theorem reads_cons {state last : Punctuation} {c : Char} {rest : List Char} :
    Reads state (c :: rest) last ↔ ∃ next, state.step c = some next ∧ Reads next rest last := by
  simp only [reads_iff, commaBefore_held, commaBefore_cons]
  fun_cases step state c
  · next opening =>
      subst opening
      simp [nests_open, isBlank, Nat.add_assoc, Nat.add_comm 1]
  · next notOpen closing refused =>
      subst closing
      have stops : state.comma = true ∨ state.depth = 0 := by simpa using refused
      rcases stops with held | shallow
      · simp [nests_close, isBlank, held]
      · simp [nests_close, shallow]
  · next notOpen closing allowed =>
      subst closing
      have goesOn : state.comma = false ∧ state.depth ≠ 0 := by simpa using allowed
      obtain ⟨depth, deep⟩ := Nat.exists_eq_succ_of_ne_zero goesOn.2
      simp [nests_close, isBlank, goesOn.1, deep, ← Nat.add_assoc, Nat.add_right_comm]
  · next notOpen notClose between =>
      subst between
      simp [nests_other notOpen notClose, isBlank]
  · next notOpen notClose notComma blank =>
      simp [nests_other notOpen notClose, notOpen, notClose, notComma, blank]
  · next notOpen notClose notComma filled =>
      simp [nests_other notOpen notClose, notOpen, notClose, notComma, filled]

theorem read_eq_some_iff {state last : Punctuation} {chars : List Char} :
    state.read chars = some last ↔ Reads state chars last := by
  induction chars generalizing state with
  | nil =>
      rw [reads_nil]
      exact Option.some_inj
  | cons c rest inductionHypothesis =>
      rw [read_cons, Option.bind_eq_some_iff, reads_cons]
      simp only [inductionHypothesis]

theorem read_deeper {state last : Punctuation} {chars : List Char}
    (read : state.read chars = some last) (more : Nat) :
    Punctuation.read ⟨state.depth + more, state.comma⟩ chars =
      some ⟨last.depth + more, last.comma⟩ := by
  have reads := read_eq_some_iff.mp read
  apply read_eq_some_iff.mpr
  constructor
  case nested =>
    intro first early
    have bound := reads.nested first early
    dsimp only
    omega
  case depth =>
    have depth := reads.depth
    dsimp only
    omega
  case separated => exact reads.separated
  case comma => exact reads.comma

/-- A text without parentheses and commas leaves nothing of a comma before it, unless it is blank. -/
theorem read_of_unmarked {state : Punctuation} {text : String} (unmarked : Unmarked text) :
    state.read text.toList = some ⟨state.depth, state.comma && isBlankText text⟩ := by
  rw [Unmarked] at unmarked
  rw [isBlankText]
  generalize text.toList = chars at unmarked
  induction chars generalizing state with
  | nil => simp [read]
  | cons c rest inductionHypothesis =>
      obtain ⟨notOpen, notClose, notComma⟩ := unmarked c List.mem_cons_self
      have later : ∀ c ∈ rest, c ≠ '(' ∧ c ≠ ')' ∧ c ≠ ',' := fun c member =>
        unmarked c (List.mem_cons_of_mem _ member)
      cases blank : isBlank c with
      | true =>
          have stays : state.step c = some state := by
            simp [step, notOpen, notClose, notComma, blank]
          rw [read_cons, stays, Option.bind_some, inductionHypothesis later, List.all_cons, blank,
            Bool.true_and]
      | false =>
          have filled : state.step c = some ⟨state.depth, false⟩ := by
            simp [step, notOpen, notClose, notComma, blank]
          rw [read_cons, filled, Option.bind_some, inductionHypothesis later, List.all_cons, blank,
            Bool.false_and, Bool.and_false]

/-- Of texts without parentheses and commas, the last one alone decides whether the comma before it
is left with nothing after it. -/
theorem read_intercalate {state : Punctuation} {items : List String} {last : String}
    (unmarked : ∀ item ∈ items ++ [last], Unmarked item) :
    state.read (", ".intercalate (items ++ [last])).toList =
      some ⟨state.depth, (state.comma || !items.isEmpty) && isBlankText last⟩ := by
  induction items generalizing state with
  | nil =>
      rw [List.nil_append, String.intercalate_singleton, read_of_unmarked (unmarked last (by simp))]
      simp
  | cons first rest inductionHypothesis =>
      rw [List.cons_append, List.forall_mem_cons] at unmarked
      -- What the first item leaves of an earlier comma is forgotten at the comma behind it.
      have between (before : Punctuation) :
          before.read ", ".toList = some ⟨before.depth, true⟩ := rfl
      rw [List.cons_append, String.intercalate_cons_of_ne_nil (by simp), String.toList_append,
        String.toList_append, read_append, read_append, read_of_unmarked unmarked.1,
        Option.bind_some, between, Option.bind_some, inductionHypothesis unmarked.2]
      simp

end Punctuation

/-! ## Texts beside each other -/

/-- Every prefix has at least as many opening as closing parentheses, the text as many of both. -/
structure Balanced (text : String) : Prop where
  nested : ∀ first, first <+: text.toList → first.count ')' ≤ first.count '('
  complete : text.toList.count ')' = text.toList.count '('

/-- Parentheses are balanced, and between a comma and a closing parenthesis is more than blanks. -/
structure Punctuated (text : String) : Prop where
  balanced : Balanced text
  separated : ¬ CommaBefore (some ')') text.toList

/-- A text that opens nothing without closing it. -/
def Closed (text : String) : Prop := Punctuation.read ⟨0, false⟩ text.toList = some ⟨0, false⟩

/-- A text that leaves no parenthesis open, but perhaps a comma with nothing after it. -/
def Level (text : String) : Prop :=
  ∃ comma, Punctuation.read ⟨0, false⟩ text.toList = some ⟨0, comma⟩

/-- A closed text that can follow a comma. -/
def Listable (text : String) : Prop :=
  ∀ comma, Punctuation.read ⟨0, comma⟩ text.toList = some ⟨0, false⟩

instance (text : String) : Decidable (Closed text) :=
  inferInstanceAs (Decidable (_ = _))

theorem closed_iff {text : String} :
    Closed text ↔ Punctuated text ∧ ¬ CommaBefore none text.toList := by
  rw [Closed, Punctuation.read_eq_some_iff]
  constructor
  · intro reads
    refine ⟨⟨⟨?_, ?_⟩, reads.separated⟩, ?_⟩
    · intro first early
      simpa using reads.nested first early
    · simpa using reads.depth
    · intro trailing
      cases reads.comma.mpr trailing
  · rintro ⟨punctuated, ended⟩
    constructor
    case nested =>
      intro first early
      simpa using punctuated.balanced.nested first early
    case depth => simpa using punctuated.balanced.complete
    case separated => exact punctuated.separated
    case comma => simpa [Punctuation.held] using ended

example : Closed "f(a, (b))" ∧ ¬ Closed "f(a, )" := by decide

variable {first second text : String}

theorem Closed.append (closedFirst : Closed first) (closedSecond : Closed second) :
    Closed (first ++ second) := by
  rw [Closed, String.toList_append, Punctuation.read_append, closedFirst]
  exact closedSecond

theorem Closed.between {opening closing : String} {depth : Nat}
    (opens : Punctuation.read ⟨0, false⟩ opening.toList = some ⟨depth, false⟩)
    (inner : Closed text)
    (closes : Punctuation.read ⟨depth, false⟩ closing.toList = some ⟨0, false⟩) :
    Closed (opening ++ text ++ closing) := by
  have deeper := Punctuation.read_deeper inner depth
  rw [Nat.zero_add] at deeper
  rw [Closed, String.toList_append, String.toList_append, Punctuation.read_append,
    Punctuation.read_append, opens, Option.bind_some, deeper]
  exact closes

theorem Level.closed_append (level : Level first) (listable : Listable second) :
    Closed (first ++ second) := by
  obtain ⟨comma, reads⟩ := level
  rw [Closed, String.toList_append, Punctuation.read_append, reads]
  exact listable comma

theorem Closed.level_append (closed : Closed first) (level : Level second) :
    Level (first ++ second) := by
  obtain ⟨comma, reads⟩ := level
  refine ⟨comma, ?_⟩
  rw [String.toList_append, Punctuation.read_append, closed]
  exact reads

theorem Listable.closed (listable : Listable text) : Closed text := listable false

theorem Listable.append (listable : Listable first) (closed : Closed second) :
    Listable (first ++ second) := by
  intro comma
  rw [String.toList_append, Punctuation.read_append, listable comma]
  exact closed

theorem Closed.level (closed : Closed text) : Level text := ⟨false, closed⟩

theorem closed_of_unmarked (unmarked : Unmarked text) : Closed text :=
  Punctuation.read_of_unmarked unmarked

theorem head?_dropWhile_of_nests {chars : List Char} (nests : Nests 0 chars) :
    (chars.dropWhile isBlank).head? ≠ some ')' := by
  induction chars with
  | nil => simp
  | cons c rest inductionHypothesis =>
      cases blank : isBlank c with
      | true =>
          have notOpen : c ≠ '(' := by
            rintro rfl
            cases blank
          have notClose : c ≠ ')' := by
            rintro rfl
            cases blank
          rw [List.dropWhile_cons, if_pos blank]
          exact inductionHypothesis ((nests_other notOpen notClose).mp nests)
      | false =>
          rw [List.dropWhile_cons, blank]
          intro closing
          cases closing
          exact (nests_close.mp nests).1 rfl

/-- After a comma a balanced text begins with no closing parenthesis. -/
theorem Closed.listable (closed : Closed text) (filled : trim text ≠ "") : Listable text := by
  intro comma
  cases comma with
  | false => exact closed
  | true =>
      have reads := Punctuation.read_eq_some_iff.mp closed
      have someKept : text.toList.dropWhile isBlank ≠ [] := by
        intro blank
        apply filled
        rw [← isBlankText_iff_trim, isBlankText, List.all_eq_true]
        exact (dropWhile_eq_nil isBlank text.toList).mp blank
      apply Punctuation.read_eq_some_iff.mpr
      constructor
      case nested => exact reads.nested
      case depth => exact reads.depth
      case separated =>
        rw [Punctuation.commaBefore_held]
        rintro (⟨_, closing⟩ | inside)
        · exact head?_dropWhile_of_nests reads.nested closing
        · exact reads.separated inside
      case comma =>
        rw [Punctuation.commaBefore_held, List.head?_eq_none_iff]
        constructor
        · intro trailing
          cases trailing
        · rintro (⟨_, blank⟩ | inside)
          · exact absurd blank someKept
          · cases reads.comma.mpr inside

theorem listable_intercalate {items : List String} (nonempty : items ≠ [])
    (listable : ∀ item ∈ items, Listable item) : Listable (", ".intercalate items) := by
  induction items with
  | nil => exact absurd rfl nonempty
  | cons first rest inductionHypothesis =>
      have early := listable first List.mem_cons_self
      cases rest with
      | nil => rwa [String.intercalate_singleton]
      | cons second others =>
          have later := inductionHypothesis (by simp) fun item member =>
            listable item (List.mem_cons_of_mem first member)
          rw [String.intercalate_cons_cons]
          intro comma
          rw [String.toList_append, String.toList_append, Punctuation.read_append,
            Punctuation.read_append, early comma]
          exact later true

theorem closed_intercalate {items : List String} (listable : ∀ item ∈ items, Listable item) :
    Closed (", ".intercalate items) := by
  cases items with
  | nil => rfl
  | cons first rest => exact (listable_intercalate (by simp) listable).closed

theorem closed_intercalate_of_closed {separator : String} (closed : Closed separator)
    {items : List String} (itemsClosed : ∀ item ∈ items, Closed item) :
    Closed (separator.intercalate items) := by
  induction items with
  | nil => rfl
  | cons first rest inductionHypothesis =>
      rw [List.forall_mem_cons] at itemsClosed
      cases rest with
      | nil =>
          rw [String.intercalate_singleton]
          exact itemsClosed.1
      | cons second others =>
          rw [String.intercalate_cons_cons]
          exact (itemsClosed.1.append closed).append (inductionHypothesis itemsClosed.2)

/-! ## Numerals -/

theorem closed_of_digits (digits : ∀ c ∈ text.toList, c.isDigit = true) : Closed text := by
  apply closed_of_unmarked
  intro c member
  have digit := digits c member
  refine ⟨?_, ?_, ?_⟩ <;>
    · rintro rfl
      cases digit

theorem closed_repr (value : Nat) : Closed value.repr :=
  closed_of_digits fun _ member => Numeral.isDigit_of_mem_repr member

theorem closed_ofInt (value : Int) : Closed (Numeral.ofInt value) := by
  unfold Numeral.ofInt
  split
  · exact Closed.append rfl (closed_repr _)
  · exact closed_repr _

theorem closed_padded (width value : Nat) : Closed (Numeral.padded width value) := by
  apply closed_of_digits
  intro c member
  rw [Numeral.toList_padded] at member
  rcases List.mem_append.mp member with zero | digit
  · rw [List.eq_of_mem_replicate zero]
    rfl
  · exact Nat.isDigit_of_mem_toDigits (by decide) (by decide) digit

end TablePartitioning.Text
