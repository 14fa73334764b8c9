import TablePartitioning.Definition
import TablePartitioning.Proofs.Text.Numeral
import TablePartitioning.Proofs.Text.Trimming

/-!
# Range definitions without fault

Range definitions are accepted when none of them has a fault of its own and, where the partition
`future` follows them, none of them stands in its way.  A bound is told from `MAXVALUE` by a letter
that it lacks.
-/

namespace TablePartitioning.Definition

theorem futureFault?_eq_none_iff {definition : Definition} :
    definition.futureFault? = none ↔
      Identifier.unquoted definition.name ≠ future.name ∧
        definition.bound?.any isMaxValue = false := by
  unfold futureFault?
  split
  · next reserved => simp [reserved]
  · next free =>
      split
      · next unbounded => simp [unbounded]
      · next bounded => simp [free, bounded]

theorem rangeFault?_eq_none_iff {definitions : List Definition} {includeFuture : Bool} :
    rangeFault? definitions includeFuture = none ↔
      definitions ≠ [] ∧
        (includeFuture = true → ∀ definition ∈ definitions, definition.futureFault? = none) ∧
          ∀ definition ∈ definitions, definition.fault? .range = none := by
  have standing :
      (if includeFuture then definitions.findSome? futureFault? else none) = none ↔
        (includeFuture = true → ∀ definition ∈ definitions, definition.futureFault? = none) := by
    cases includeFuture with
    | false => simp
    | true => simp
  unfold rangeFault?
  split
  · next empty => simp [List.isEmpty_iff.mp empty]
  · next nonempty =>
      rw [List.isEmpty_iff] at nonempty
      split
      · next fault found =>
          rw [← standing, found]
          simp
      · next found =>
          rw [← standing, found]
          simp [nonempty]

/-- Where no definition stands in the way of `future`, the faults are those of the definitions. -/
theorem rangeFault?_of_standing {definitions : List Definition} (includeFuture : Bool)
    (nonempty : definitions ≠ [])
    (standing : ∀ definition ∈ definitions, definition.futureFault? = none) :
    rangeFault? definitions includeFuture = definitions.findSome? (·.fault? .range) := by
  have future : (if includeFuture then definitions.findSome? futureFault? else none) = none := by
    rw [List.findSome?_eq_none_iff.mpr standing, ite_self]
  rw [rangeFault?, future, if_neg (by simpa using nonempty)]

theorem fault?_range_eq_none {name bound : String} (named : Identifier.isValid name = true)
    (bounded : Text.isBlankText bound = false) : (range name bound).fault? .range = none := by
  simp [fault?, range, named, bounded]

/-! ## Bounds that are not `MAXVALUE` -/

theorem toLower_of_isDigit {c : Char} (digit : c.isDigit = true) : c.toLower = c := by
  have bounds := Text.Numeral.toNat_of_isDigit digit
  unfold Char.toLower
  rw [dif_neg]
  rintro ⟨above, _⟩
  rw [ge_iff_le, UInt32.le_iff_toNat_le] at above
  have code : c.val.toNat = c.toNat := rfl
  have a : 'A'.val.toNat = 65 := by decide
  omega

theorem toLower_ne_of_isDigit {c : Char} (digit : c.isDigit = true) : c.toLower ≠ 'v' := by
  rw [toLower_of_isDigit digit]
  rintro rfl
  cases digit

theorem isMaxValue_eq_false {bound : String}
    (lacking : ∀ c ∈ (Text.trim bound).toList, c.toLower ≠ 'v') : isMaxValue bound = false := by
  rw [Bool.eq_false_iff]
  intro same
  rw [isMaxValue, Text.sameIgnoringCase, beq_iff_eq] at same
  have letter : 'v' ∈ maxValue.toList.map Char.toLower := by decide
  rw [← same] at letter
  obtain ⟨c, member, lower⟩ := List.mem_map.mp letter
  exact lacking c member lower

theorem isMaxValue_of_integer? {bound : String} {value : Int}
    (read : Text.Numeral.integer? (Text.trim bound) = some value) : isMaxValue bound = false := by
  apply isMaxValue_eq_false
  intro c member
  rcases Text.Numeral.mem_of_integer? read member with digit | rfl | rfl
  · exact toLower_ne_of_isDigit digit
  · decide
  · decide

end TablePartitioning.Definition
