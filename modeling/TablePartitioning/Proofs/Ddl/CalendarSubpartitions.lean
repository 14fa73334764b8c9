import TablePartitioning.Proofs.Ddl.CalendarNames
import TablePartitioning.Proofs.Ddl.StatementText
import TablePartitioning.Proofs.Text.Identifiers

/-!
# Years divided by months, in place

The statement of a span whose years are divided by months lists the years of the span, and the
future where it is wanted, with twelve subpartitions each.  Without its backquotes each name is a
word with the year after it, or the word alone in the future; years, months and the future are
different words, so that no two names of the statement are the same.
-/

namespace TablePartitioning

theorem Month.alphabetic_name (month : Month) : month.name.toList.all Char.isAlpha = true := by
  cases month <;> decide

theorem Month.unquoted_name (month : Month) :
    Identifier.unquoted ("\x60" ++ month.name ++ "\x60") = month.name := by
  cases month <;> decide

namespace Ddl.AlterTable

open Text.Numeral

/-! ## Names as words with years -/

/-- The years that partitions are for; none is the time after all of them. -/
def periods (span : YearSpan) (includeFuture : Bool) : List (Option Int) :=
  span.years.map some ++ if includeFuture then [none] else []

/-- The words that the names of a partition and of its subpartitions are made with. -/
def words : Option Int → List String
  | some _ => "year" :: Month.remainderOrder.map Month.name
  | none => "future" :: Month.remainderOrder.map Month.name

theorem nodup_periods (span : YearSpan) (includeFuture : Bool) :
    (periods span includeFuture).Nodup := by
  have years : (span.years.map some).Nodup := by
    apply List.Pairwise.map _ _ span.nodup_years
    intro first second different same
    exact different (Option.some.inj same)
  cases includeFuture with
  | false =>
      rw [periods, if_neg Bool.false_ne_true, List.append_nil]
      exact years
  | true =>
      rw [periods, if_pos rfl, List.nodup_append]
      refine ⟨years, List.pairwise_singleton _ none, ?_⟩
      rintro first member second future rfl
      obtain ⟨year, _, same⟩ := List.mem_map.mp member
      rw [List.mem_singleton.mp future] at same
      cases same

theorem nodup_words (period : Option Int) : (words period).Nodup := by
  have years : ("year" :: Month.remainderOrder.map Month.name).Nodup := by decide
  have future : ("future" :: Month.remainderOrder.map Month.name).Nodup := by decide
  cases period with
  | none => exact future
  | some year => exact years

theorem alphabetic_of_mem_words {period : Option Int} {word : String}
    (member : word ∈ words period) : word.toList.all Char.isAlpha = true := by
  have months : word ∈ Month.remainderOrder.map Month.name →
      word.toList.all Char.isAlpha = true := by
    intro ofMonth
    obtain ⟨month, _, rfl⟩ := List.mem_map.mp ofMonth
    exact month.alphabetic_name
  cases period with
  | none =>
      rcases List.mem_cons.mp member with rfl | ofMonth
      · decide
      · exact months ofMonth
  | some year =>
      rcases List.mem_cons.mp member with rfl | ofMonth
      · decide
      · exact months ofMonth

/-- The names of a partition and of its subpartitions, without backquotes. -/
def plainNames (period : Option Int) : List String :=
  (words period).map fun word => numbered word period

/-- A name tells the period of its partition and the word that it is made with. -/
theorem nodup_plainNames (span : YearSpan) (includeFuture : Bool) :
    ((periods span includeFuture).flatMap plainNames).Nodup := by
  apply List.pairwise_flatMap.mpr
  constructor
  · intro period _
    apply List.pairwise_map.mpr
    apply (nodup_words period).imp_of_mem
    intro first second firstMember secondMember different same
    exact different (numbered_inj (alphabetic_of_mem_words firstMember)
      (alphabetic_of_mem_words secondMember) same).1
  · apply (nodup_periods span includeFuture).imp
    intro first second different early inFirst late inSecond same
    obtain ⟨earlyWord, earlyMember, rfl⟩ := List.mem_map.mp inFirst
    obtain ⟨lateWord, lateMember, rfl⟩ := List.mem_map.mp inSecond
    exact different (numbered_inj (alphabetic_of_mem_words earlyMember)
      (alphabetic_of_mem_words lateMember) same).2

/-! ## The names of the statement -/

theorem unquoted_append_ofInt {word : String}
    (plain : word.toList.all Identifier.isPlainChar = true) (year : Int) :
    Identifier.unquoted (word ++ ofInt year) = word ++ ofInt year :=
  Identifier.unquoted_of_not_mem (Identifier.backquote_not_mem_append_ofInt plain year)

theorem map_unquoted_namesOfYear (year : Int) :
    (namesOfYear .yearMonth year).map Identifier.unquoted = plainNames (some year) := by
  have partition : Identifier.unquoted (yearName year) = numbered "year" (some year) :=
    unquoted_append_ofInt (by decide) year
  have subpartition (month : Month) :
      Identifier.unquoted (month.name ++ ofInt year) = numbered month.name (some year) :=
    unquoted_append_ofInt month.plain_name year
  simp only [namesOfYear, plainNames, words, List.map_cons, List.map_map, Function.comp_def,
    partition, subpartition]

theorem map_unquoted_namesOfFuture :
    (namesOfFuture .yearMonth).map Identifier.unquoted = plainNames none := by
  have partition : Identifier.unquoted Definition.future.name = numbered "future" none := by
    decide
  simp only [namesOfFuture, futureMonthClause, plainNames, words, List.map_cons, List.map_map,
    Function.comp_def, partition, Month.unquoted_name, numbered]

theorem map_unquoted_names {table : TableName} {column : String} {span : YearSpan}
    {includeFuture timestamp : Bool} {statement : AlterTable}
    (rendered : calendar table column ⟨span, .yearMonth, includeFuture, timestamp⟩ =
      .ok statement) :
    statement.names.map Identifier.unquoted =
      (periods span includeFuture).flatMap plainNames := by
  rw [names_calendar rendered, periods, List.map_append, List.map_flatMap, List.flatMap_append,
    List.flatMap_map]
  simp only [map_unquoted_namesOfYear]
  cases includeFuture with
  | false => rfl
  | true =>
      simp only [if_true, map_unquoted_namesOfFuture, List.flatMap_singleton]

/-! ## What the statement lists -/

variable (table : TableName) (column : String) (span : YearSpan) (includeFuture timestamp : Bool)

/-- The partitions of a span whose years are divided by months. -/
def yearMonthClauses : List PartitionClause :=
  span.years.map (yearMonthClause timestamp) ++ if includeFuture then [futureMonthClause] else []

theorem calendar_yearMonth :
    calendar table column ⟨span, .yearMonth, includeFuture, timestamp⟩ =
      .ok ⟨table, "RANGE(" ++ yearExpression column timestamp ++ ")",
        some ("HASH(MONTH(" ++ column ++ "))"),
        .clauses (yearMonthClauses span includeFuture timestamp)⟩ := rfl

/-- Whatever is told of a clause is told of each year and of the future. -/
theorem map_yearMonthClauses {Told : Type} (tell : PartitionClause → Told) :
    (yearMonthClauses span includeFuture timestamp).map tell =
      (span.years.map fun year => tell (yearMonthClause timestamp year)) ++
        if includeFuture then [tell futureMonthClause] else [] := by
  rw [yearMonthClauses, List.map_append, List.map_map]
  cases includeFuture with
  | false => rfl
  | true => rfl

theorem text_of_months (definition : Definition) (name : Month → String) :
    (PartitionClause.mk definition (Month.remainderOrder.map name)).text =
      definition.clause ++ " (" ++
        ", ".intercalate (Month.remainderOrder.map fun month => "SUBPARTITION " ++ name month) ++
          ")" := by
  have twelve : Month.remainderOrder.map name ≠ [] := List.cons_ne_nil _ _
  rw [PartitionClause.text_of_divided definition twelve, List.map_map]
  rfl

theorem text_yearMonthClause (year : Int) :
    (yearMonthClause timestamp year).text =
      "PARTITION year" ++ ofInt year ++ " VALUES LESS THAN (" ++
        (if timestamp then "UNIX_TIMESTAMP('" ++ ofInt (year + 1) ++ "-01-01 00:00:00')"
        else ofInt (year + 1)) ++ ") (" ++
          ", ".intercalate (Month.remainderOrder.map fun month =>
            "SUBPARTITION " ++ (month.name ++ ofInt year)) ++ ")" := by
  have naming : "PARTITION year" = "PARTITION " ++ "year" := by decide
  have dividing : ") (" = ")" ++ " (" := by decide
  rw [yearMonthClause, text_of_months, yearDefinition, Definition.clause_range, yearBound, naming,
    dividing]
  simp only [String.append_assoc]

theorem text_futureMonthClause :
    futureMonthClause.text =
      "PARTITION future VALUES LESS THAN (MAXVALUE) (" ++
        ", ".intercalate (Month.remainderOrder.map fun month =>
          "SUBPARTITION " ++ ("\x60" ++ month.name ++ "\x60")) ++ ")" := by
  have whole : Definition.future.clause ++ " (" =
    "PARTITION future VALUES LESS THAN (MAXVALUE) (" := by decide
  rw [futureMonthClause, text_of_months, whole]

theorem map_unquoted_subpartitions :
    ((yearMonthClauses span includeFuture timestamp).flatMap
        PartitionClause.subpartitions).map Identifier.unquoted =
      (span.years.flatMap fun year =>
        Month.remainderOrder.map fun month => month.name ++ ofInt year) ++
          if includeFuture then Month.remainderOrder.map Month.name else [] := by
  have ofYear (year : Int) :
      (yearMonthClause timestamp year).subpartitions.map Identifier.unquoted =
        Month.remainderOrder.map fun month => month.name ++ ofInt year := by
    simp only [yearMonthClause, List.map_map, Function.comp_def,
      unquoted_append_ofInt (Month.plain_name _)]
  have ofFuture : futureMonthClause.subpartitions.map Identifier.unquoted =
      Month.remainderOrder.map Month.name := by
    simp only [futureMonthClause, List.map_map, Function.comp_def, Month.unquoted_name]
  rw [yearMonthClauses, List.flatMap_append, List.map_append, List.flatMap_map, List.map_flatMap]
  simp only [ofYear]
  cases includeFuture with
  | false => rfl
  | true => simp only [if_true, List.flatMap_singleton, ofFuture]

theorem length_flatMap_subpartitions :
    ((yearMonthClauses span includeFuture timestamp).flatMap
        PartitionClause.subpartitions).length =
      12 * span.length + if includeFuture then 12 else 0 := by
  have ofYear (year : Int) : (yearMonthClause timestamp year).subpartitions.length = 12 := rfl
  have ofFuture : futureMonthClause.subpartitions.length = 12 := rfl
  rw [List.length_flatMap, map_yearMonthClauses, List.sum_append]
  simp only [ofYear, ofFuture, List.map_const', List.sum_replicate_nat, span.length_years]
  cases includeFuture with
  | false => exact congrArg (· + 0) (Nat.mul_comm span.length 12)
  | true => exact congrArg (· + 12) (Nat.mul_comm span.length 12)

theorem length_subpartitions :
    ∀ clause ∈ yearMonthClauses span includeFuture timestamp,
      clause.subpartitions.length = 12 := by
  apply forall_mem_append_ite
  case explicit =>
    rw [List.forall_mem_map]
    intro year _
    rfl
  case final => rfl

/-- The statement of a span lists its years in order and the future after them where it is wanted,
each divided by the twelve months, under names that are all different. -/
structure ListsYears (clauses : List PartitionClause) : Prop where
  rendered : Strategy.render .alterTable table
      (.calendar column ⟨span, .yearMonth, includeFuture, timestamp⟩) =
    .ok ["ALTER TABLE " ++ table.text ++
      " PARTITION BY " ++ ("RANGE(" ++ yearExpression column timestamp ++ ")") ++
      " SUBPARTITION BY " ++ ("HASH(MONTH(" ++ column ++ "))") ++ " " ++
      (PartitionBody.clauses clauses).text]
  /-- A year stands in the list with its bound and with its months, and so does the future. -/
  written : (PartitionBody.clauses clauses).text =
    "(" ++ ", ".intercalate
      ((span.years.map fun year =>
        "PARTITION year" ++ ofInt year ++ " VALUES LESS THAN (" ++
          (if timestamp then "UNIX_TIMESTAMP('" ++ ofInt (year + 1) ++ "-01-01 00:00:00')"
          else ofInt (year + 1)) ++ ") (" ++
            ", ".intercalate (Month.remainderOrder.map fun month =>
              "SUBPARTITION " ++ (month.name ++ ofInt year)) ++ ")") ++
        if includeFuture then
          ["PARTITION future VALUES LESS THAN (MAXVALUE) (" ++
            ", ".intercalate (Month.remainderOrder.map fun month =>
              "SUBPARTITION " ++ ("\x60" ++ month.name ++ "\x60")) ++ ")"]
        else []) ++ ")"
  ascending : span.years.Pairwise (· < ·) ∧
    ∀ year, year ∈ span.years ↔ span.first ≤ year ∧ year ≤ span.last
  listed : clauses.map (fun clause => clause.definition.name) =
    (span.years.map fun year => "year" ++ ofInt year) ++
      if includeFuture then ["future"] else []
  twelve : ∀ clause ∈ clauses, clause.subpartitions.length = 12
  bounded : timestamp = false →
    clauses.map (fun clause => clause.definition.bound?) =
      (span.years.map fun year => some (ofInt (year + 1))) ++
        (if includeFuture then [some Definition.maxValue] else []) ∧
    (span.years.map (· + 1)).Pairwise (· < ·)
  /-- The months carry the year in their names, and no year in the future. -/
  divided : (clauses.flatMap PartitionClause.subpartitions).map Identifier.unquoted =
    (span.years.flatMap fun year =>
      Month.remainderOrder.map fun month => month.name ++ ofInt year) ++
        if includeFuture then Month.remainderOrder.map Month.name else []
  count : ((clauses.flatMap PartitionClause.subpartitions).length : Int) =
    12 * (span.last - span.first + 1) + if includeFuture then 12 else 0
  distinct : ((clauses.flatMap PartitionClause.names).map Identifier.unquoted).Nodup

/-- Every span whose years are divided by months is written in place, whatever its flags are. -/
theorem calendar_listsYears :
    ListsYears table column span includeFuture timestamp
      (yearMonthClauses span includeFuture timestamp) := by
  have rendered := calendar_yearMonth table column span includeFuture timestamp
  constructor
  case rendered =>
    simp only [Strategy.render, ofLayout, rendered, Except.map, List.map_cons, List.map_nil,
      text_of_divided]
  case written =>
    rw [PartitionBody.text_clauses, map_yearMonthClauses]
    simp only [text_yearMonthClause, text_futureMonthClause]
  case ascending => exact ⟨span.ascending_years, fun year => span.mem_years⟩
  case listed => exact map_yearMonthClauses span includeFuture timestamp _
  case twelve => exact length_subpartitions span includeFuture timestamp
  case bounded =>
    rintro rfl
    refine ⟨map_yearMonthClauses span includeFuture false _, ?_⟩
    apply List.Pairwise.map _ _ span.ascending_years
    intro earlier later before
    omega
  case divided => exact map_unquoted_subpartitions span includeFuture timestamp
  case count =>
    have ordered := span.first_le_last
    have years : (span.length : Int) = span.last - span.first + 1 := by
      rw [YearSpan.length]
      omega
    rw [length_flatMap_subpartitions, ← years]
    split
    · omega
    · omega
  case distinct =>
    have names := map_unquoted_names rendered
    rw [AlterTable.names] at names
    rw [names]
    exact nodup_plainNames span includeFuture

end Ddl.AlterTable

end TablePartitioning
