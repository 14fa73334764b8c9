import Mathlib.Data.List.Forall2
import TablePartitioning.Proofs.Ddl.DefinitionRules
import TablePartitioning.Proofs.Ddl.StatementText

/-!
# Routing by ranges in both dialects

In place, a key goes to the first partition whose bound lies above it.  As tables of their own the
partitions have lower ends as well, each the bound of the partition before, so that a key below
one bound is above the lower end of no later partition.  `RoutesKeysAlike` says that both ways lead
to the same definition, and which keys neither has a place for.
-/

namespace TablePartitioning

namespace Ddl

/-- An end of a range as a server reads it. -/
inductive Limit where
  /-- Below all keys. -/
  | minimum
  | key (value : Int)
  /-- Above all keys. -/
  | maximum
deriving DecidableEq

namespace Limit

/-- Whether a key lies below a limit. -/
def exceeds (limit : Limit) (key : Int) : Bool :=
  match limit with
  | .minimum => false
  | .key value => key < value
  | .maximum => true

/-- A limit is one of two words or a numeral, with blanks around it or without. -/
def ofText? (text : String) : Option Limit :=
  if text = PartitionOf.minValue then some .minimum
  else if text = Definition.maxValue then some .maximum
  else (Text.Numeral.integer? (Text.trim text)).map .key

theorem ofText?_minValue : ofText? PartitionOf.minValue = some .minimum := rfl

theorem ofText?_maxValue : ofText? Definition.maxValue = some .maximum := by
  decide

theorem integer?_of_ofText? {text : String} {value : Int}
    (read : ofText? text = some (.key value)) :
    Text.Numeral.integer? (Text.trim text) = some value := by
  unfold ofText? at read
  split at read
  · cases read
  · split at read
    · cases read
    · obtain ⟨integer, numeral, same⟩ := Option.map_eq_some_iff.mp read
      cases same
      exact numeral

end Limit

/-- Whether a key lies from one end of a range on and below the other. -/
def HeldValues.holdsKey (values : HeldValues) (key : Int) : Bool :=
  match values with
  | .range start finish =>
      match Limit.ofText? start, Limit.ofText? finish with
      | some start, some finish => !start.exceeds key && finish.exceeds key
      | _, _ => false
  | _ => false

/-- The tables that hold a key. -/
def PartitionOf.routeKey (statements : List PartitionOf) (key : Int) : List TableName :=
  (statements.filter fun statement => statement.values.holdsKey key).map child

end Ddl

namespace Definition

open Ddl

/-- The upper bound as a server reads it. -/
def limit? (definition : Definition) : Option Limit :=
  definition.bound?.bind Limit.ofText?

/-- Whether a key lies below the upper bound. -/
def exceedsKey (definition : Definition) (key : Int) : Bool :=
  definition.limit?.any (·.exceeds key)

/-- Definitions with the partition `future` after them where it is wanted. -/
def withFuture (definitions : List Definition) (includeFuture : Bool) : List Definition :=
  definitions ++ if includeFuture then [future] else []

theorem limit?_future : future.limit? = some .maximum := by
  decide

theorem exceedsKey_future (key : Int) : future.exceedsKey key = true := by
  rw [exceedsKey, limit?_future]
  rfl

end Definition

namespace Ddl

/-- The definition that a key goes to: the first whose bound lies above it. -/
def AlterTable.routeKey (statement : AlterTable) (key : Int) : Option Definition :=
  match statement.body with
  | .clauses list =>
      (list.find? fun clause => clause.definition.exceedsKey key).map PartitionClause.definition
  | .count _ => none

/-- Definitions whose bounds are read as integers. -/
def Bounded : List Definition → List Int → Prop :=
  List.Forall₂ fun definition bound => definition.limit? = some (.key bound)

theorem exceedsKey_of_limit? {definition : Definition} {bound : Int}
    (read : definition.limit? = some (.key bound)) (key : Int) :
    definition.exceedsKey key = decide (key < bound) := by
  rw [Definition.exceedsKey, read]
  rfl

/-! ## A chain of ranges -/

namespace PartitionOf

variable (parent : TableName) (includeFuture : Bool) {lowerText : String} {key : Int}
  {definitions : List Definition} {bounds : List Int}

theorem ofText?_bound {definition : Definition} {bound : Int}
    (read : definition.limit? = some (.key bound)) :
    Limit.ofText? (definition.bound?.getD Definition.maxValue) = some (.key bound) := by
  obtain ⟨text, found, limit⟩ := Option.bind_eq_some_iff.mp read
  rw [found]
  exact limit

theorem holdsKey_range {start finish : String} {lower upper : Limit}
    (readStart : Limit.ofText? start = some lower)
    (readFinish : Limit.ofText? finish = some upper) (key : Int) :
    (HeldValues.range start finish).holdsKey key = (!lower.exceeds key && upper.exceeds key) := by
  simp only [HeldValues.holdsKey, readStart, readFinish]

theorem routeKey_cons (statement : PartitionOf) (rest : List PartitionOf) (key : Int) :
    routeKey (statement :: rest) key =
      if statement.values.holdsKey key then statement.child :: routeKey rest key
      else routeKey rest key := by
  rw [routeKey, List.filter_cons]
  split
  · rfl
  · rfl

theorem eq_range_of_mem_chain {lower : String} {statement : PartitionOf}
    (member : statement ∈ chain parent includeFuture lower definitions) :
    ∃ label start finish, statement = ⟨parent, label, .range start finish⟩ := by
  induction definitions generalizing lower with
  | nil =>
      cases includeFuture with
      | false => cases member
      | true => exact ⟨_, _, _, List.mem_singleton.mp member⟩
  | cons definition rest inductionHypothesis =>
      rcases List.mem_cons.mp member with here | later
      · exact ⟨_, _, _, here⟩
      · exact inductionHypothesis later

/-- Below its lower end a chain holds nothing. -/
theorem routeKey_chain_below {lower : Int} (bounded : Bounded definitions bounds)
    (increasing : (lower :: bounds).Pairwise (· < ·))
    (read : Limit.ofText? lowerText = some (.key lower)) (below : key < lower) :
    routeKey (chain parent includeFuture lowerText definitions) key = [] := by
  induction bounded generalizing lower lowerText with
  | nil =>
      have outside := holdsKey_range read Limit.ofText?_maxValue key
      cases includeFuture with
      | false => rfl
      | true => simp [chain, routeKey, outside, Limit.exceeds, below]
  | @cons definition bound rest bounds limit _ inductionHypothesis =>
      have ascending := List.pairwise_cons.mp increasing
      have upward : lower < bound := ascending.1 bound List.mem_cons_self
      have outside := holdsKey_range read (ofText?_bound limit) key
      have later := inductionHypothesis ascending.2 (ofText?_bound limit) (by omega)
      simp [chain, routeKey_cons, outside, Limit.exceeds, below, later]

/-- From its lower end on, a chain holds a key where the first bound above the key stands. -/
theorem routeKey_chain {lower : Limit} (bounded : Bounded definitions bounds)
    (increasing : bounds.Pairwise (· < ·)) (read : Limit.ofText? lowerText = some lower)
    (reached : lower.exceeds key = false) :
    routeKey (chain parent includeFuture lowerText definitions) key =
      (((Definition.withFuture definitions includeFuture).find? (·.exceedsKey key)).map
        fun definition => parent.child (labelOf definition)).toList := by
  induction bounded generalizing lower lowerText with
  | nil =>
      cases includeFuture with
      | false => rfl
      | true =>
          have label : Definition.future.name = labelOf Definition.future := by decide
          have inside : (HeldValues.range lowerText Definition.maxValue).holdsKey key = true := by
            rw [holdsKey_range read Limit.ofText?_maxValue key, reached]
            rfl
          rw [chain, if_pos rfl, routeKey_cons, if_pos inside, label]
          rfl
  | @cons definition bound rest bounds limit bounded inductionHypothesis =>
      have ascending := List.pairwise_cons.mp increasing
      have inside := holdsKey_range read (ofText?_bound limit) key
      rw [reached] at inside
      have exceeding := exceedsKey_of_limit? limit key
      rw [chain, routeKey_cons, inside, Definition.withFuture, List.cons_append, List.find?_cons,
        exceeding]
      by_cases below : key < bound
      · have later := routeKey_chain_below parent includeFuture bounded increasing
          (ofText?_bound limit) below
        simp [Limit.exceeds, below, later, child]
      · have past : (Limit.key bound).exceeds key = false := decide_eq_false below
        have later := inductionHypothesis ascending.2 (ofText?_bound limit) past
        simp [past, below, later, Definition.withFuture]

theorem map_child_chain (lower : String) (definitions : List Definition) :
    (chain parent includeFuture lower definitions).map child =
      ((Definition.withFuture definitions includeFuture).map labelOf).map parent.child := by
  have label : Definition.future.name = labelOf Definition.future := by decide
  induction definitions generalizing lower with
  | nil =>
      cases includeFuture with
      | false => rfl
      | true =>
          rw [chain, if_pos rfl, label]
          rfl
  | cons definition rest inductionHypothesis =>
      rw [chain, List.map_cons, inductionHypothesis]
      rfl

end PartitionOf

/-! ## Both dialects -/

/-- Keys from the last bound on are those that no bound exceeds. -/
theorem all_le_iff_last {bounds : List Int} (nonempty : bounds ≠ [])
    (increasing : bounds.Pairwise (· < ·)) (key : Int) :
    (∀ bound ∈ bounds, bound ≤ key) ↔ ∃ last, bounds.getLast? = some last ∧ last ≤ key := by
  constructor
  · intro below
    exact ⟨bounds.getLast nonempty, List.getLast?_eq_some_getLast nonempty,
      below _ (List.getLast_mem nonempty)⟩
  · rintro ⟨last, final, reached⟩ bound member
    obtain ⟨before, rfl⟩ := List.getLast?_eq_some_iff.mp final
    rcases List.mem_append.mp member with early | late
    · have upward := (List.pairwise_append.mp increasing).2.2 bound early last (by simp)
      omega
    · rw [List.mem_singleton.mp late]
      exact reached

theorem bounded_iff_forall {definitions : List Definition} {bounds : List Int}
    (bounded : Bounded definitions bounds) (key : Int) :
    (∀ definition ∈ definitions, definition.exceedsKey key = false) ↔
      ∀ bound ∈ bounds, bound ≤ key := by
  induction bounded with
  | nil => simp
  | @cons definition bound rest bounds limit _ inductionHypothesis =>
      simp [exceedsKey_of_limit? limit key, inductionHypothesis]

/-- Range definitions that servers can route by: without fault, with integer bounds that increase,
and with names that stay apart without their backquotes. -/
structure Ascending (definitions : List Definition) (bounds : List Int) : Prop where
  nonempty : definitions ≠ []
  faultless : ∀ definition ∈ definitions, definition.fault? .range = none
  bounded : Bounded definitions bounds
  increasing : bounds.Pairwise (· < ·)
  distinct : (definitions.map PartitionOf.labelOf).Nodup

/-- A list of ranges in the statement and the statements of the two dialects: a key goes to the
same definition in both. -/
structure RoutesKeysAlike (table : TableName) (column : String) (definitions : List Definition)
    (bounds : List Int) (includeFuture : Bool) (statement : AlterTable)
    (statements : List PartitionOf) : Prop where
  rendered :
    Strategy.render .alterTable table (.range column definitions includeFuture) =
        .ok [statement.text] ∧
      Strategy.render .partitionOf table (.range column definitions includeFuture) =
        .ok (statements.map PartitionOf.text)
  /-- What rows are compared with stands in the texts as it is. -/
  spelled : statement.SpellsRanges table ∧
    ∀ partition ∈ statements, partition.SpellsRange table
  /-- Rows are assigned by the column itself. -/
  method : statement.method = "RANGE(" ++ column ++ ")" ∧ statement.submethod = none
  first : ∀ key, statement.routeKey key =
    (Definition.withFuture definitions includeFuture).find? (·.exceedsKey key)
  alike : ∀ key, PartitionOf.routeKey statements key =
    ((statement.routeKey key).map fun definition =>
      table.child (PartitionOf.labelOf definition)).toList
  /-- A child is named after one definition only. -/
  apart : (statements.map PartitionOf.child).Nodup
  unplaced : ∀ key, statement.routeKey key = none ↔
    includeFuture = false ∧ ∃ last, bounds.getLast? = some last ∧ last ≤ key

variable {definitions : List Definition} {bounds : List Int} {includeFuture : Bool}

theorem Bounded.limit (bounded : Bounded definitions bounds) {definition : Definition}
    (member : definition ∈ definitions) :
    ∃ bound, definition.limit? = some (.key bound) := by
  induction bounded with
  | nil => cases member
  | cons limit _ inductionHypothesis =>
      rcases List.mem_cons.mp member with rfl | later
      · exact ⟨_, limit⟩
      · exact inductionHypothesis later

theorem any_isMaxValue_of_limit? {definition : Definition} {bound : Int}
    (read : definition.limit? = some (.key bound)) :
    definition.bound?.any Definition.isMaxValue = false := by
  obtain ⟨text, found, limit⟩ := Option.bind_eq_some_iff.mp read
  rw [found]
  exact Definition.isMaxValue_of_integer? (Limit.integer?_of_ofText? limit)

theorem Ascending.accepted (ascending : Ascending definitions bounds)
    (free : includeFuture = true → Definition.future.name ∉ definitions.map PartitionOf.labelOf) :
    Definition.rangeFault? definitions includeFuture = none := by
  apply Definition.rangeFault?_eq_none_iff.mpr
  refine ⟨ascending.nonempty, ?_, ascending.faultless⟩
  intro wanted definition member
  apply Definition.futureFault?_eq_none_iff.mpr
  constructor
  · intro reserved
    exact free wanted (List.mem_map.mpr ⟨definition, member, reserved⟩)
  · obtain ⟨bound, limit⟩ := ascending.bounded.limit member
    exact any_isMaxValue_of_limit? limit

/-- Names that differ, none of which is `future`, differ from each other and from it. -/
theorem nodup_labels_withFuture
    (distinct : (definitions.map PartitionOf.labelOf).Nodup)
    (free : includeFuture = true → Definition.future.name ∉ definitions.map PartitionOf.labelOf) :
    ((Definition.withFuture definitions includeFuture).map PartitionOf.labelOf).Nodup := by
  have label : PartitionOf.labelOf Definition.future = Definition.future.name := by decide
  cases includeFuture with
  | false => simpa [Definition.withFuture] using distinct
  | true =>
      rw [Definition.withFuture, if_pos rfl, List.map_append, List.map_singleton, label]
      apply List.nodup_append.mpr
      refine ⟨distinct, by simp, ?_⟩
      intro name member other same
      rw [List.mem_singleton.mp same]
      rintro rfl
      exact free rfl member

theorem AlterTable.spellsRanges_of_faultless (table : TableName) (method : String)
    (faultless : ∀ definition ∈ definitions, definition.fault? .range = none) :
    SpellsRanges table ⟨table, method, none, .clauses (clausesOf definitions includeFuture)⟩ := by
  apply spellsRanges_of_clauses
  rw [clausesOf, List.forall_mem_map]
  apply forall_mem_append_ite
  case explicit =>
    intro definition member
    exact ⟨_, (Definition.fault?_eq_none_iff.mp (faultless definition member)).eq_range⟩
  case final => exact ⟨_, _, rfl⟩

theorem AlterTable.routeKey_eq_find? {statement : AlterTable}
    (body : statement.body = .clauses (clausesOf definitions includeFuture)) (key : Int) :
    statement.routeKey key =
      (Definition.withFuture definitions includeFuture).find? (·.exceedsKey key) := by
  rw [routeKey, body]
  have clauses : clausesOf definitions includeFuture =
      (Definition.withFuture definitions includeFuture).map PartitionClause.ofDefinition := rfl
  simp only [clauses]
  rw [List.find?_map, Option.map_map]
  exact Option.map_id_apply

theorem find?_withFuture_eq_none_iff (bounded : Bounded definitions bounds) (key : Int) :
    (Definition.withFuture definitions includeFuture).find? (·.exceedsKey key) = none ↔
      includeFuture = false ∧ ∀ bound ∈ bounds, bound ≤ key := by
  rw [← bounded_iff_forall bounded key]
  cases includeFuture with
  | false => simp [Definition.withFuture]
  | true => simp [Definition.withFuture, Definition.exceedsKey_future]

/-- Every list of ranges that ascends is written in both dialects, and they route alike. -/
theorem range_routesKeysAlike
    (ascending : Ascending definitions bounds)
    (free : includeFuture = true → Definition.future.name ∉ definitions.map PartitionOf.labelOf)
    (table : TableName) (column : String) :
    ∃ statement statements,
      AlterTable.range table column definitions includeFuture = .ok statement ∧
        PartitionOf.range table definitions includeFuture = .ok statements ∧
          RoutesKeysAlike table column definitions bounds includeFuture statement statements := by
  have accepted := ascending.accepted free
  have inPlace : AlterTable.range table column definitions includeFuture = .ok
      ⟨table, "RANGE(" ++ column ++ ")", none,
        .clauses (AlterTable.clausesOf definitions includeFuture)⟩ := by
    rw [AlterTable.range, accepted]
  have apart : PartitionOf.range table definitions includeFuture =
      .ok (PartitionOf.chain table includeFuture PartitionOf.minValue definitions) := by
    rw [PartitionOf.range, accepted]
  refine ⟨_, _, inPlace, apart, ?_⟩
  constructor
  case rendered =>
    constructor
    · simp [Strategy.render, AlterTable.ofLayout, inPlace, Except.map]
    · simp [Strategy.render, PartitionOf.ofLayout, apart, Except.map]
  case spelled =>
    constructor
    · exact AlterTable.spellsRanges_of_faultless table _ ascending.faultless
    · intro partition member
      obtain ⟨label, start, finish, rfl⟩ :=
        PartitionOf.eq_range_of_mem_chain table includeFuture member
      exact PartitionOf.spellsRange_range table label start finish
  case method => exact ⟨rfl, rfl⟩
  case first =>
    intro key
    exact AlterTable.routeKey_eq_find? rfl key
  case alike =>
    intro key
    rw [AlterTable.routeKey_eq_find? rfl key]
    exact PartitionOf.routeKey_chain table includeFuture ascending.bounded ascending.increasing
      Limit.ofText?_minValue rfl
  case apart =>
    rw [PartitionOf.map_child_chain]
    apply List.Pairwise.map _ _ (nodup_labels_withFuture ascending.distinct free)
    intro first second different same
    exact different (table.child_injective same)
  case unplaced =>
    intro key
    have limited : bounds ≠ [] := by
      rintro rfl
      cases ascending.bounded
      exact ascending.nonempty rfl
    rw [AlterTable.routeKey_eq_find? rfl key, find?_withFuture_eq_none_iff ascending.bounded key,
      all_le_iff_last limited ascending.increasing]

/-- A name between backquotes, a bound below zero, and a bound between blanks. -/
def scatteredRanges : List Definition :=
  [.range "\x60archive\x60" "-5", .range "recent" " 10 "]

theorem scatteredRanges_routesKeysAlike :
    Ascending scatteredRanges [-5, 10] ∧
      Definition.future.name ∉ scatteredRanges.map PartitionOf.labelOf ∧
        ∃ statement statements,
          AlterTable.range ⟨some "app", "events"⟩ "id" scatteredRanges true = .ok statement ∧
            PartitionOf.range ⟨some "app", "events"⟩ scatteredRanges true = .ok statements ∧
              RoutesKeysAlike ⟨some "app", "events"⟩ "id" scatteredRanges [-5, 10] true statement
                statements := by
  have ascending : Ascending scatteredRanges [-5, 10] := {
    nonempty := by decide
    faultless := by decide
    bounded := .cons (by decide) (.cons (by decide) .nil)
    increasing := by decide
    distinct := by decide }
  have free : Definition.future.name ∉ scatteredRanges.map PartitionOf.labelOf := by decide
  exact ⟨ascending, free, range_routesKeysAlike ascending (fun _ => free) _ _⟩

end Ddl

end TablePartitioning
