import TablePartitioning.Proofs.Ddl.DefinitionRules
import TablePartitioning.Proofs.Ddl.StatementText

/-!
# The ends of ranges

A definition gives the upper end of its range only.  The lower end is what the range before it ends
with, letter by letter, and nothing is put in place of a bound, since every accepted definition has
one.  The partition `future` is the only one without an upper end: a definition that writes
`MAXVALUE` in whatever way is refused before it.
-/

namespace TablePartitioning

namespace Definition

/-- What the range at a place begins with: the given text for the first of them, and the bound of
the definition before it for the others. -/
def lowerEnd? (first : String) (definitions : List Definition) : Nat → Option String
  | 0 => some first
  | index + 1 => definitions[index]?.bind bound?

theorem lowerEnd?_cons {definition : Definition} {upper : String}
    (bounded : definition.bound? = some upper) (first : String) (rest : List Definition)
    (index : Nat) :
    lowerEnd? first (definition :: rest) (index + 1) = lowerEnd? upper rest index := by
  cases index with
  | zero => exact bounded
  | succ index => rfl

theorem lowerEnd?_length {definitions : List Definition} (nonempty : definitions ≠ [])
    (first : String) :
    lowerEnd? first definitions definitions.length = definitions.getLast?.bind bound? := by
  obtain ⟨count, positive⟩ := Nat.exists_eq_succ_of_ne_zero (mt List.length_eq_zero_iff.mp nonempty)
  rw [List.getLast?_eq_getElem?, positive]
  rfl

theorem Accepted.exists_bound {includeFuture : Bool} {definitions : List Definition}
    (accepted : Accepted .range includeFuture definitions) :
    ∀ definition ∈ definitions, ∃ bound, definition.bound? = some bound := by
  intro definition member
  obtain ⟨bound, range⟩ := (accepted.wellFormed definition member).eq_range
  refine ⟨bound, ?_⟩
  rw [range]
  rfl

end Definition

namespace Ddl

/-- Whether an end of a range is `MAXVALUE`, whatever the case of its letters and with blanks around
it or without. -/
def HeldValues.Unbounded : HeldValues → Prop
  | .range start finish =>
      Text.lowerAscii (Text.trim start) = "maxvalue" ∨
        Text.lowerAscii (Text.trim finish) = "maxvalue"
  | _ => False

namespace PartitionOf

variable (table : TableName) (includeFuture : Bool) {definitions : List Definition}

/-! ## A chain, statement by statement -/

theorem length_chain (lower : String) (definitions : List Definition) :
    (chain table includeFuture lower definitions).length =
      definitions.length + if includeFuture then 1 else 0 := by
  induction definitions generalizing lower with
  | nil =>
      cases includeFuture with
      | false => rfl
      | true => rfl
  | cons definition rest inductionHypothesis =>
      rw [chain, List.length_cons, inductionHypothesis, List.length_cons]
      omega

/-- The lower end moves along the chain: what is told of the rest is told of the whole. -/
theorem getElem?_chain
    (bounded : ∀ definition ∈ definitions, ∃ bound, definition.bound? = some bound)
    (lower : String) {index : Nat} {definition : Definition}
    (found : definitions[index]? = some definition) :
    ∃ start bound, Definition.lowerEnd? lower definitions index = some start ∧
      definition.bound? = some bound ∧
        (chain table includeFuture lower definitions)[index]? =
          some ⟨table, labelOf definition, .range start bound⟩ := by
  induction definitions generalizing lower index with
  | nil => cases found
  | cons first rest inductionHypothesis =>
      obtain ⟨upper, firstBound⟩ := bounded first List.mem_cons_self
      rw [chain, firstBound]
      cases index with
      | zero =>
          cases found
          exact ⟨lower, upper, rfl, firstBound, rfl⟩
      | succ index =>
          rw [Definition.lowerEnd?_cons firstBound]
          apply inductionHypothesis
          case bounded =>
            intro later member
            exact bounded later (List.mem_cons_of_mem first member)
          case found => exact found

theorem getElem?_chain_length
    (bounded : ∀ definition ∈ definitions, ∃ bound, definition.bound? = some bound)
    (lower : String) :
    ∃ start, Definition.lowerEnd? lower definitions definitions.length = some start ∧
      (chain table true lower definitions)[definitions.length]? =
        some ⟨table, "future", .range start Definition.maxValue⟩ := by
  induction definitions generalizing lower with
  | nil => exact ⟨lower, rfl, rfl⟩
  | cons first rest inductionHypothesis =>
      obtain ⟨upper, firstBound⟩ := bounded first List.mem_cons_self
      rw [chain, firstBound, List.length_cons, Definition.lowerEnd?_cons firstBound]
      apply inductionHypothesis
      intro later member
      exact bounded later (List.mem_cons_of_mem first member)

/-! ## Accepted definitions -/

/-- The statements of ranges: one for each definition, from the bound before up to its own, and one
more for the future where it is wanted. -/
structure EndsMeet (definitions : List Definition) (statements : List PartitionOf) : Prop where
  written : ∀ label start finish, (⟨table, label, .range start finish⟩ : PartitionOf).text =
    "CREATE TABLE " ++ table.text ++ "_" ++ label ++ " PARTITION OF " ++ table.text ++
      " FOR VALUES FROM (" ++ start ++ ") TO (" ++ finish ++ ")"
  count : statements.length = definitions.length + if includeFuture then 1 else 0
  explicit : ∀ index definition, definitions[index]? = some definition →
    ∃ start bound, Definition.lowerEnd? "MINVALUE" definitions index = some start ∧
      definition.bound? = some bound ∧
        statements[index]? = some ⟨table, Identifier.unquoted definition.name, .range start bound⟩
  future : includeFuture = true →
    ∃ last, definitions.getLast?.bind Definition.bound? = some last ∧
      statements[definitions.length]? = some ⟨table, "future", .range last "MAXVALUE"⟩
  /-- No explicit range is without an upper end, nor does one begin where there is none. -/
  unbounded_iff : includeFuture = true → ∀ index statement, statements[index]? = some statement →
    (statement.values.Unbounded ↔ index = definitions.length)

theorem lowerEnd?_not_maxValue (accepted : Definition.Accepted .range true definitions)
    {index : Nat} {start : String}
    (begins : Definition.lowerEnd? minValue definitions index = some start) :
    Text.lowerAscii (Text.trim start) ≠ "maxvalue" := by
  cases index with
  | zero =>
      cases begins
      decide
  | succ index =>
      obtain ⟨before, found, bound⟩ := Option.bind_eq_some_iff.mp begins
      exact accepted.bounded rfl before (List.mem_of_getElem? found) start bound

theorem unbounded_chain_iff (accepted : Definition.Accepted .range true definitions)
    {index : Nat} {statement : PartitionOf}
    (found : (chain table true minValue definitions)[index]? = some statement) :
    statement.values.Unbounded ↔ index = definitions.length := by
  have bounded := accepted.exists_bound
  have within : index ≤ definitions.length := by
    have inside := List.getElem?_eq_some_iff.mp found |>.1
    rw [length_chain, if_pos rfl] at inside
    omega
  rcases Nat.lt_or_eq_of_le within with explicit | future
  · have standing := List.getElem?_eq_getElem explicit
    obtain ⟨start, bound, begins, ends, written⟩ :=
      getElem?_chain table true bounded minValue standing
    rw [written] at found
    cases found
    have member := List.mem_of_getElem? standing
    constructor
    · rintro (unboundedStart | unboundedFinish)
      · exact absurd unboundedStart (lowerEnd?_not_maxValue accepted begins)
      · exact absurd unboundedFinish (accepted.bounded rfl _ member bound ends)
    · rintro rfl
      exact absurd explicit (Nat.lt_irrefl _)
  · subst future
    obtain ⟨start, _, written⟩ := getElem?_chain_length table bounded minValue
    rw [written] at found
    cases found
    have largest : Text.lowerAscii (Text.trim Definition.maxValue) = "maxvalue" := by decide
    exact ⟨fun _ => rfl, fun _ => .inr largest⟩

/-- Whatever the bounds are, the ranges of accepted definitions meet at them. -/
theorem range_endsMeet {table : TableName} {column : String} {includeFuture : Bool}
    {texts : List String}
    (rendered : Strategy.render .partitionOf table (.range column definitions includeFuture) =
      .ok texts) :
    ∃ statements, texts = statements.map PartitionOf.text ∧
      EndsMeet table includeFuture definitions statements := by
  obtain ⟨accepted, rfl⟩ := render_range_eq_ok_iff.mp rendered
  have bounded := accepted.exists_bound
  refine ⟨chain table includeFuture minValue definitions, rfl, ?_⟩
  constructor
  case written =>
    intro label start finish
    exact text_range table label start finish
  case count => exact length_chain table includeFuture minValue definitions
  case explicit =>
    intro index definition found
    exact getElem?_chain table includeFuture bounded minValue found
  case future =>
    rintro rfl
    obtain ⟨last, begins, written⟩ := getElem?_chain_length table bounded minValue
    rw [Definition.lowerEnd?_length accepted.nonempty] at begins
    exact ⟨last, begins, written⟩
  case unbounded_iff =>
    rintro rfl index statement found
    exact unbounded_chain_iff table accepted found

/-- Bounds that are calls, and one that only begins like `MAXVALUE`. -/
def expressionRanges : List Definition :=
  [.range "\x60old\x60" "UNIX_TIMESTAMP('2020-01-01')", .range "recent" " maxvalue - 1"]

/-- The statements for those bounds and the future. -/
def expressionTexts : List String :=
  ["CREATE TABLE app.events_old PARTITION OF app.events " ++
      "FOR VALUES FROM (MINVALUE) TO (UNIX_TIMESTAMP('2020-01-01'))",
    "CREATE TABLE app.events_recent PARTITION OF app.events " ++
      "FOR VALUES FROM (UNIX_TIMESTAMP('2020-01-01')) TO ( maxvalue - 1)",
    "CREATE TABLE app.events_future PARTITION OF app.events " ++
      "FOR VALUES FROM ( maxvalue - 1) TO (MAXVALUE)"]

theorem expressionRanges_endsMeet :
    Strategy.render .partitionOf ⟨some "app", "events"⟩ (.range "at" expressionRanges true) =
        .ok expressionTexts ∧
      ∃ statements, expressionTexts = statements.map PartitionOf.text ∧
        EndsMeet ⟨some "app", "events"⟩ true expressionRanges statements := by
  have rendered :
      Strategy.render .partitionOf ⟨some "app", "events"⟩ (.range "at" expressionRanges true) =
        .ok expressionTexts := rfl
  exact ⟨rendered, range_endsMeet rendered⟩

end PartitionOf

end Ddl

end TablePartitioning
