import Mathlib.Tactic.ByContra
import TablePartitioning.Ddl.Strategy
import TablePartitioning.Proofs.Ddl.RangeDefinitions
import TablePartitioning.Proofs.Text.Identifiers

/-!
# The rules for definitions

What definitions have to be, said without the checks: a list is accepted when it has an item, when
all its items are well formed for the kind that is asked for, and when none of them stands in the
way of the partition `future` where that one is wanted.  A list that is not accepted is refused
with one fault, which is found in two passes: the first definition that stands in the way of
`future`, and then the first that is not well formed.  Both dialects judge alike.
-/

namespace TablePartitioning

namespace Definition

/-- The values of a definition: the one bound of a range, or what a list holds; none is blank. -/
def HasValues (expected : BoundKind) (values : List String) : Prop :=
  match expected with
  | .range => ∃ bound, values = [bound] ∧ Text.trim bound ≠ ""
  | .list => values ≠ [] ∧ ∀ value ∈ values, Text.trim value ≠ ""

/-- What a definition of a kind has to be. -/
structure WellFormed (expected : BoundKind) (definition : Definition) : Prop where
  named : Identifier.Names definition.name
  kind : definition.kind = expected
  valued : HasValues expected definition.values

/-- What a definition is refused for that is not well formed: its name before its kind, the kind
before blank values, and those before their number. -/
inductive Malformed (expected : BoundKind) (definition : Definition) : DefinitionFault → Prop
  | name (unnamed : ¬ Identifier.Names definition.name) :
      Malformed expected definition (.invalidName definition.name)
  | kind (named : Identifier.Names definition.name) (different : definition.kind ≠ expected) :
      Malformed expected definition (.wrongKind definition.name definition.kind expected)
  | value (named : Identifier.Names definition.name) (kind : definition.kind = expected)
      (blank : definition.values = [] ∨ ∃ value ∈ definition.values, Text.trim value = "") :
      Malformed expected definition (.emptyValue definition.name)
  | bounds (named : Identifier.Names definition.name) (kind : definition.kind = expected)
      (range : expected = .range) (several : 1 < definition.values.length)
      (filled : ∀ value ∈ definition.values, Text.trim value ≠ "") :
      Malformed expected definition (.severalBounds definition.name)

/-- What keeps a definition from standing before the partition `future`: its name before its
bound. -/
inductive BlocksFuture (definition : Definition) : DefinitionFault → Prop
  | name (reserved : Identifier.unquoted definition.name = "future") :
      BlocksFuture definition .reservedName
  | bound {bound : String} (free : Identifier.unquoted definition.name ≠ "future")
      (found : definition.bound? = some bound)
      (unbounded : Text.lowerAscii (Text.trim bound) = "maxvalue") :
      BlocksFuture definition (.unbounded definition.name)

/-- The first definition of a list that breaks a rule, and the fault of it. -/
def FirstFault (breaks : Definition → DefinitionFault → Prop) (definitions : List Definition)
    (fault : DefinitionFault) : Prop :=
  ∃ before culprit after, definitions = before ++ culprit :: after ∧ breaks culprit fault ∧
    ∀ definition ∈ before, ∀ fault, ¬ breaks definition fault

/-- When a list of definitions is accepted, with the partition `future` after it or without. -/
structure Accepted (expected : BoundKind) (includeFuture : Bool) (definitions : List Definition) :
    Prop where
  nonempty : definitions ≠ []
  wellFormed : ∀ definition ∈ definitions, definition.WellFormed expected
  unreserved : includeFuture = true →
    ∀ definition ∈ definitions, Identifier.unquoted definition.name ≠ "future"
  bounded : includeFuture = true →
    ∀ definition ∈ definitions, ∀ bound, definition.bound? = some bound →
      Text.lowerAscii (Text.trim bound) ≠ "maxvalue"

/-- What a list of definitions is refused for. -/
inductive Refused (expected : BoundKind) (includeFuture : Bool) (definitions : List Definition) :
    DefinitionFault → Prop
  | empty (empty : definitions = []) : Refused expected includeFuture definitions .noPartitions
  | future {fault : DefinitionFault} (wanted : includeFuture = true)
      (first : FirstFault BlocksFuture definitions fault) :
      Refused expected includeFuture definitions fault
  | malformed {fault : DefinitionFault}
      (standing : includeFuture = true →
        ∀ definition ∈ definitions, ∀ fault, ¬ BlocksFuture definition fault)
      (first : FirstFault (Malformed expected) definitions fault) :
      Refused expected includeFuture definitions fault

/-! ## One definition -/

variable {expected : BoundKind} {definition : Definition} {definitions : List Definition}
  {fault : DefinitionFault} {includeFuture : Bool}

theorem isEmpty_or_any_blank_iff {values : List String} :
    (values.isEmpty || values.any Text.isBlankText) = true ↔
      values = [] ∨ ∃ value ∈ values, Text.trim value = "" := by
  rw [Bool.or_eq_true, List.isEmpty_iff, List.any_eq_true]
  simp only [Text.isBlankText_iff_trim]

theorem malformed_of_fault? (found : definition.fault? expected = some fault) :
    Malformed expected definition fault := by
  unfold fault? at found
  split at found
  · next unnamed =>
      cases found
      rw [Bool.not_eq_true', ← Bool.not_eq_true, Identifier.isValid_iff] at unnamed
      exact .name unnamed
  · next named =>
      rw [Bool.not_eq_true', Bool.not_eq_false, Identifier.isValid_iff] at named
      split at found
      · next different =>
          cases found
          exact .kind named different
      · next kind =>
          rw [ne_eq, Decidable.not_not] at kind
          split at found
          · next blank =>
              cases found
              exact .value named kind (isEmpty_or_any_blank_iff.mp blank)
          · next filled =>
              rw [isEmpty_or_any_blank_iff, not_or, not_exists] at filled
              split at found
              · next several =>
                  cases found
                  rw [Bool.and_eq_true, decide_eq_true_eq, decide_eq_true_eq] at several
                  have some_value := List.length_pos_iff.mpr filled.1
                  refine .bounds named kind (kind.symm.trans several.1) (by omega) ?_
                  intro value member empty
                  exact filled.2 value ⟨member, empty⟩
              · cases found

theorem fault?_of_malformed (malformed : Malformed expected definition fault) :
    definition.fault? expected = some fault := by
  unfold fault?
  cases malformed with
  | name unnamed =>
      rw [← Identifier.isValid_iff, Bool.not_eq_true] at unnamed
      simp [unnamed]
  | kind named different =>
      rw [← Identifier.isValid_iff] at named
      simp [named, different]
  | value named kind blank =>
      rw [← Identifier.isValid_iff] at named
      rw [← isEmpty_or_any_blank_iff] at blank
      simp only [named, kind, blank]
      simp
  | bounds named kind range several filled =>
      have valued :
          ¬ (definition.values = [] ∨ ∃ value ∈ definition.values, Text.trim value = "") := by
        rintro (empty | ⟨value, member, blank⟩)
        · rw [empty] at several
          cases several
        · exact filled value member blank
      rw [← Identifier.isValid_iff] at named
      rw [← isEmpty_or_any_blank_iff, Bool.not_eq_true] at valued
      have single : definition.values.length ≠ 1 := by omega
      simp only [named, kind, valued, range]
      simp [single]

theorem fault?_eq_some_iff :
    definition.fault? expected = some fault ↔ Malformed expected definition fault :=
  ⟨malformed_of_fault?, fault?_of_malformed⟩

theorem WellFormed.not_malformed (wellFormed : definition.WellFormed expected) :
    ¬ Malformed expected definition fault := by
  have valued := wellFormed.valued
  intro malformed
  cases malformed with
  | name unnamed => exact unnamed wellFormed.named
  | kind _ different => exact different wellFormed.kind
  | value _ _ blank =>
      cases expected with
      | range =>
          obtain ⟨bound, values, filled⟩ := valued
          simp [values, filled] at blank
      | list =>
          rcases blank with empty | ⟨value, member, blank⟩
          · exact valued.1 empty
          · exact valued.2 value member blank
  | bounds _ _ range several _ =>
      subst range
      obtain ⟨bound, values, _⟩ := valued
      simp [values] at several

theorem wellFormed_of_not_malformed
    (sound : ∀ fault, ¬ Malformed expected definition fault) : definition.WellFormed expected := by
  have named : Identifier.Names definition.name := by
    by_contra unnamed
    exact sound _ (.name unnamed)
  have kind : definition.kind = expected := by
    by_contra different
    exact sound _ (.kind named different)
  have nonempty : definition.values ≠ [] := by
    intro empty
    exact sound _ (.value named kind (.inl empty))
  have filled : ∀ value ∈ definition.values, Text.trim value ≠ "" := by
    intro value member blank
    exact sound _ (.value named kind (.inr ⟨value, member, blank⟩))
  refine ⟨named, kind, ?_⟩
  cases expected with
  | list => exact ⟨nonempty, filled⟩
  | range =>
      have single : definition.values.length = 1 := by
        have some_value := List.length_pos_iff.mpr nonempty
        by_contra several
        exact sound _ (.bounds named kind rfl (by omega) filled)
      obtain ⟨bound, values⟩ := List.length_eq_one_iff.mp single
      exact ⟨bound, values, filled bound (by simp [values])⟩

theorem fault?_eq_none_iff :
    definition.fault? expected = none ↔ definition.WellFormed expected := by
  rw [Option.eq_none_iff_forall_ne_some]
  simp only [ne_eq, fault?_eq_some_iff]
  exact ⟨wellFormed_of_not_malformed, fun wellFormed _ => wellFormed.not_malformed⟩

/-- A range that is well formed is its name and its one bound. -/
theorem WellFormed.eq_range (wellFormed : definition.WellFormed .range) :
    ∃ bound, definition = .range definition.name bound := by
  obtain ⟨bound, values, _⟩ := wellFormed.valued
  refine ⟨bound, ?_⟩
  rw [range, ← values, ← wellFormed.kind]

theorem isMaxValue_iff {bound : String} :
    isMaxValue bound = true ↔ Text.lowerAscii (Text.trim bound) = "maxvalue" := by
  have lower : Text.lowerAscii maxValue = "maxvalue" := by decide
  rw [isMaxValue, Text.sameIgnoringCase_iff, lower]

theorem any_isMaxValue_iff {bound? : Option String} :
    bound?.any isMaxValue = true ↔
      ∃ bound, bound? = some bound ∧ Text.lowerAscii (Text.trim bound) = "maxvalue" := by
  cases bound? with
  | none => simp
  | some bound => simp [isMaxValue_iff]

theorem futureFault?_eq_some_iff :
    definition.futureFault? = some fault ↔ BlocksFuture definition fault := by
  unfold futureFault?
  constructor
  · intro found
    split at found
    · next reserved =>
        cases found
        exact .name reserved
    · next free =>
        split at found
        · next unbounded =>
            cases found
            obtain ⟨bound, bounded, largest⟩ := any_isMaxValue_iff.mp unbounded
            exact .bound free bounded largest
        · cases found
  · intro blocks
    cases blocks with
    | name reserved => exact if_pos reserved
    | bound free bounded largest =>
        have unbounded := any_isMaxValue_iff.mpr ⟨_, bounded, largest⟩
        exact (if_neg free).trans (if_pos unbounded)

/-! ## A list of definitions -/

/-- The fault of the pass that looks for definitions in the way of `future`. -/
def futurePass? (includeFuture : Bool) (definitions : List Definition) : Option DefinitionFault :=
  if includeFuture then definitions.findSome? futureFault? else none

/-- The fault that definitions of a kind are refused for. -/
def firstFault? (expected : BoundKind) (includeFuture : Bool) (definitions : List Definition) :
    Option DefinitionFault :=
  if definitions.isEmpty then some .noPartitions
  else (futurePass? includeFuture definitions).or (definitions.findSome? (·.fault? expected))

theorem rangeFault?_eq_firstFault? :
    rangeFault? definitions includeFuture = firstFault? .range includeFuture definitions := by
  unfold rangeFault? firstFault?
  cases found : futurePass? includeFuture definitions with
  | some fault =>
      rw [futurePass?] at found
      rw [found]
      rfl
  | none =>
      rw [futurePass?] at found
      rw [found]
      rfl

theorem listFault?_eq_firstFault? :
    listFault? definitions = firstFault? .list false definitions := rfl

theorem findSome?_eq_some_iff_firstFault {check : Definition → Option DefinitionFault}
    {breaks : Definition → DefinitionFault → Prop}
    (decides : ∀ {definition fault}, check definition = some fault ↔ breaks definition fault) :
    definitions.findSome? check = some fault ↔ FirstFault breaks definitions fault := by
  simp only [List.findSome?_eq_some_iff, Option.eq_none_iff_forall_ne_some, ne_eq, decides,
    FirstFault]

theorem Accepted.not_refused (accepted : Accepted expected includeFuture definitions) :
    ¬ Refused expected includeFuture definitions fault := by
  intro refused
  cases refused with
  | empty empty => exact accepted.nonempty empty
  | future wanted first =>
      obtain ⟨before, culprit, after, rfl, blocks, _⟩ := first
      have member : culprit ∈ before ++ culprit :: after := by simp
      cases blocks with
      | name reserved => exact accepted.unreserved wanted culprit member reserved
      | bound _ found unbounded => exact accepted.bounded wanted culprit member _ found unbounded
  | malformed _ first =>
      obtain ⟨before, culprit, after, rfl, malformed, _⟩ := first
      exact (accepted.wellFormed culprit (by simp)).not_malformed malformed

theorem accepted_of_standing (nonempty : definitions ≠ [])
    (standing : includeFuture = true →
      ∀ definition ∈ definitions, ∀ fault, ¬ BlocksFuture definition fault)
    (wellFormed : ∀ definition ∈ definitions, definition.WellFormed expected) :
    Accepted expected includeFuture definitions := by
  have unreserved (wanted : includeFuture = true) (definition : Definition)
      (member : definition ∈ definitions) : Identifier.unquoted definition.name ≠ "future" := by
    intro reserved
    exact standing wanted definition member _ (.name reserved)
  refine ⟨nonempty, wellFormed, unreserved, ?_⟩
  intro wanted definition member bound found unbounded
  exact standing wanted definition member _
    (.bound (unreserved wanted definition member) found unbounded)

theorem futurePass?_eq_some_iff :
    futurePass? includeFuture definitions = some fault ↔
      includeFuture = true ∧ FirstFault BlocksFuture definitions fault := by
  rw [← findSome?_eq_some_iff_firstFault futureFault?_eq_some_iff]
  cases includeFuture with
  | false => simp [futurePass?]
  | true => simp [futurePass?]

theorem futurePass?_eq_none_iff :
    futurePass? includeFuture definitions = none ↔
      (includeFuture = true →
        ∀ definition ∈ definitions, ∀ fault, ¬ BlocksFuture definition fault) := by
  simp only [← futureFault?_eq_some_iff, ← ne_eq, ← Option.eq_none_iff_forall_ne_some]
  cases includeFuture with
  | false => simp [futurePass?]
  | true => simp [futurePass?]

theorem firstFault?_eq_some_iff :
    firstFault? expected includeFuture definitions = some fault ↔
      Refused expected includeFuture definitions fault := by
  unfold firstFault?
  constructor
  · intro found
    split at found
    · next empty =>
        cases found
        exact .empty (List.isEmpty_iff.mp empty)
    · rcases Option.or_eq_some_iff.mp found with blocked | ⟨standing, malformed⟩
      · obtain ⟨wanted, first⟩ := futurePass?_eq_some_iff.mp blocked
        exact .future wanted first
      · exact .malformed (futurePass?_eq_none_iff.mp standing)
          ((findSome?_eq_some_iff_firstFault fault?_eq_some_iff).mp malformed)
  · intro refused
    cases refused with
    | empty empty =>
        subst empty
        rfl
    | future wanted first =>
        have blocked := futurePass?_eq_some_iff.mpr ⟨wanted, first⟩
        obtain ⟨before, culprit, after, rfl, _⟩ := first
        rw [blocked]
        simp
    | malformed standing first =>
        have standing := futurePass?_eq_none_iff.mpr standing
        have malformed := (findSome?_eq_some_iff_firstFault fault?_eq_some_iff).mpr first
        obtain ⟨before, culprit, after, rfl, _⟩ := first
        rw [standing, malformed]
        simp

theorem firstFault?_eq_none_iff :
    firstFault? expected includeFuture definitions = none ↔
      Accepted expected includeFuture definitions := by
  constructor
  · intro passed
    unfold firstFault? at passed
    split at passed
    · cases passed
    · next nonempty =>
        obtain ⟨standing, sound⟩ := Option.or_eq_none_iff.mp passed
        apply accepted_of_standing
        case nonempty =>
          rintro rfl
          exact nonempty rfl
        case standing => exact futurePass?_eq_none_iff.mp standing
        case wellFormed =>
          intro definition member
          exact fault?_eq_none_iff.mp (List.findSome?_eq_none_iff.mp sound definition member)
  · intro accepted
    apply Option.eq_none_iff_forall_ne_some.mpr
    intro fault found
    exact accepted.not_refused (firstFault?_eq_some_iff.mp found)

end Definition

/-! ## Both dialects -/

namespace Ddl

variable {expected : BoundKind} {includeFuture : Bool} {definitions : List Definition}

/-- A way to statements in each dialect judges definitions by the rules. -/
structure Judges (expected : BoundKind) (includeFuture : Bool) (definitions : List Definition)
    (render : Strategy → Except Failure (List String)) : Prop where
  accepts : ∀ strategy, (∃ statements, render strategy = .ok statements) ↔
    Definition.Accepted expected includeFuture definitions
  refuses : ∀ strategy failure, render strategy = .error failure ↔
    ∃ fault, failure = .invalidDefinition fault ∧
      Definition.Refused expected includeFuture definitions fault
  alike : ∀ failure, render .alterTable = .error failure ↔ render .partitionOf = .error failure

/-- A way to statements that looks for the first fault and has statements otherwise. -/
theorem judges_of_firstFault? {render : Strategy → Except Failure (List String)}
    {statements : Strategy → List String}
    (rendered : ∀ strategy, render strategy =
      match Definition.firstFault? expected includeFuture definitions with
      | some fault => .error (.invalidDefinition fault)
      | none => .ok (statements strategy)) :
    Judges expected includeFuture definitions render := by
  have refuses (strategy : Strategy) (failure : Failure) : render strategy = .error failure ↔
      ∃ fault, failure = .invalidDefinition fault ∧
        Definition.Refused expected includeFuture definitions fault := by
    rw [rendered strategy]
    simp only [← Definition.firstFault?_eq_some_iff]
    split
    · next fault found => simp [found, eq_comm]
    · next passed => simp [passed]
  constructor
  case accepts =>
    intro strategy
    rw [← Definition.firstFault?_eq_none_iff, rendered strategy]
    split
    · next fault found => simp [found]
    · next passed => simp [passed]
  case refuses => exact refuses
  case alike =>
    intro failure
    rw [refuses, refuses]

variable (table : TableName) (column : String) (definitions : List Definition)
  (includeFuture : Bool)

/-- The texts of the statements for ranges without fault. -/
def rangeTexts : Strategy → List String
  | .alterTable =>
      [AlterTable.text ⟨table, "RANGE(" ++ column ++ ")", none,
        .clauses (AlterTable.clausesOf definitions includeFuture)⟩]
  | .partitionOf =>
      (PartitionOf.chain table includeFuture PartitionOf.minValue definitions).map PartitionOf.text

/-- The texts of the statements for lists without fault. -/
def listTexts : Strategy → List String
  | .alterTable =>
      [AlterTable.text ⟨table, "LIST(" ++ column ++ ")", none,
        .clauses (AlterTable.clausesOf definitions false)⟩]
  | .partitionOf =>
      definitions.map fun definition =>
        PartitionOf.text ⟨table, PartitionOf.labelOf definition, .list definition.values⟩

theorem render_range (strategy : Strategy) :
    strategy.render table (.range column definitions includeFuture) =
      match Definition.firstFault? .range includeFuture definitions with
      | some fault => .error (.invalidDefinition fault)
      | none => .ok (rangeTexts table column definitions includeFuture strategy) := by
  rw [← Definition.rangeFault?_eq_firstFault?]
  cases found : Definition.rangeFault? definitions includeFuture with
  | some fault =>
      cases strategy with
      | alterTable =>
          simp [Strategy.render, AlterTable.ofLayout, AlterTable.range, found, Except.map]
      | partitionOf =>
          simp [Strategy.render, PartitionOf.ofLayout, PartitionOf.range, found, Except.map]
  | none =>
      cases strategy with
      | alterTable =>
          simp [Strategy.render, AlterTable.ofLayout, AlterTable.range, found, Except.map,
            rangeTexts]
      | partitionOf =>
          simp [Strategy.render, PartitionOf.ofLayout, PartitionOf.range, found, Except.map,
            rangeTexts]

theorem render_list (strategy : Strategy) :
    strategy.render table (.list column definitions) =
      match Definition.firstFault? .list false definitions with
      | some fault => .error (.invalidDefinition fault)
      | none => .ok (listTexts table column definitions strategy) := by
  rw [← Definition.listFault?_eq_firstFault?]
  cases found : Definition.listFault? definitions with
  | some fault =>
      cases strategy with
      | alterTable =>
          simp [Strategy.render, AlterTable.ofLayout, AlterTable.list, found, Except.map]
      | partitionOf =>
          simp [Strategy.render, PartitionOf.ofLayout, PartitionOf.list, found, Except.map]
  | none =>
      cases strategy with
      | alterTable =>
          simp [Strategy.render, AlterTable.ofLayout, AlterTable.list, found, Except.map, listTexts]
      | partitionOf =>
          simp [Strategy.render, PartitionOf.ofLayout, PartitionOf.list, found, Except.map,
            listTexts]

variable {table column definitions includeFuture}

theorem AlterTable.range_eq_ok_iff {statement : AlterTable} :
    range table column definitions includeFuture = .ok statement ↔
      Definition.Accepted .range includeFuture definitions ∧
        statement = ⟨table, "RANGE(" ++ column ++ ")", none,
          .clauses (clausesOf definitions includeFuture)⟩ := by
  rw [range, Definition.rangeFault?_eq_firstFault?, ← Definition.firstFault?_eq_none_iff]
  split
  · next fault found => simp [found]
  · next passed => simp [passed, eq_comm]

theorem render_range_eq_ok_iff {strategy : Strategy} {texts : List String} :
    strategy.render table (.range column definitions includeFuture) = .ok texts ↔
      Definition.Accepted .range includeFuture definitions ∧
        texts = rangeTexts table column definitions includeFuture strategy := by
  rw [render_range, ← Definition.firstFault?_eq_none_iff]
  split
  · next fault found => simp [found]
  · next passed => simp [passed, eq_comm]

theorem render_list_eq_ok_iff {strategy : Strategy} {texts : List String} :
    strategy.render table (.list column definitions) = .ok texts ↔
      Definition.Accepted .list false definitions ∧
        texts = listTexts table column definitions strategy := by
  rw [render_list, ← Definition.firstFault?_eq_none_iff]
  split
  · next fault found => simp [found]
  · next passed => simp [passed, eq_comm]

theorem AlterTable.list_eq_ok_iff {statement : AlterTable} :
    list table column definitions = .ok statement ↔
      Definition.Accepted .list false definitions ∧
        statement = ⟨table, "LIST(" ++ column ++ ")", none,
          .clauses (clausesOf definitions false)⟩ := by
  rw [list, Definition.listFault?_eq_firstFault?, ← Definition.firstFault?_eq_none_iff]
  split
  · next fault found => simp [found]
  · next passed => simp [passed, eq_comm]

theorem PartitionOf.range_eq_ok_iff {statements : List PartitionOf} :
    range table definitions includeFuture = .ok statements ↔
      Definition.Accepted .range includeFuture definitions ∧
        statements = chain table includeFuture minValue definitions := by
  rw [range, Definition.rangeFault?_eq_firstFault?, ← Definition.firstFault?_eq_none_iff]
  split
  · next fault found => simp [found]
  · next passed => simp [passed, eq_comm]

theorem PartitionOf.list_eq_ok_iff {statements : List PartitionOf} :
    list table definitions = .ok statements ↔
      Definition.Accepted .list false definitions ∧
        statements = definitions.map fun definition =>
          ⟨table, labelOf definition, .list definition.values⟩ := by
  rw [list, Definition.listFault?_eq_firstFault?, ← Definition.firstFault?_eq_none_iff]
  split
  · next fault found => simp [found]
  · next passed => simp [passed, eq_comm]

variable (table column definitions)

theorem range_judges (includeFuture : Bool) :
    Judges .range includeFuture definitions fun strategy =>
      strategy.render table (.range column definitions includeFuture) :=
  judges_of_firstFault? (render_range table column definitions includeFuture)

theorem list_judges :
    Judges .list false definitions fun strategy =>
      strategy.render table (.list column definitions) :=
  judges_of_firstFault? (render_list table column definitions)

/-- Both dialects accept the same ranges and the same lists, and refuse the others alike. -/
theorem render_judges :
    (∀ includeFuture, Judges .range includeFuture definitions fun strategy =>
      strategy.render table (.range column definitions includeFuture)) ∧
    Judges .list false definitions fun strategy =>
      strategy.render table (.list column definitions) := by
  constructor
  · intro includeFuture
    exact range_judges table column definitions includeFuture
  · exact list_judges table column definitions

end Ddl

end TablePartitioning
