import TablePartitioning.Calendar.YearSpan

/-!
# The years of a span

The years of a span are its first year and those that follow it up to the last, so that a year is
found among them exactly once or not at all.
-/

namespace TablePartitioning

theorem Month.mem_calendarOrder (month : Month) : month ∈ calendarOrder := by
  cases month <;> decide

theorem Month.nodup_calendarOrder : calendarOrder.Nodup := by
  decide

/-- What occurs once in a list is all that is left of it when everything else is taken out. -/
theorem filter_eq_of_nodup [DecidableEq Item] {items : List Item} (distinct : items.Nodup)
    (item : Item) :
    items.filter (fun other => other = item) = if item ∈ items then [item] else [] := by
  rw [List.filter_eq, distinct.count]
  split
  · rfl
  · rfl

namespace YearSpan

variable (span : YearSpan)

theorem mem_years {year : Int} : year ∈ span.years ↔ span.first ≤ year ∧ year ≤ span.last := by
  have ordered := span.first_le_last
  simp only [years, length, List.mem_map, List.mem_range]
  constructor
  · rintro ⟨index, inside, rfl⟩
    omega
  · rintro ⟨above, below⟩
    refine ⟨(year - span.first).toNat, ?_, ?_⟩
    · omega
    · omega

theorem ascending_years : span.years.Pairwise (· < ·) := by
  apply List.Pairwise.map _ _ List.pairwise_lt_range
  intro earlier later before
  omega

theorem length_years : span.years.length = span.length := by
  rw [years, List.length_map, List.length_range]

theorem years_eq_cons : ∃ later, span.years = span.first :: later := by
  simp [years, length, List.range_succ_eq_map]

theorem forall_nonneg_iff : (∀ year ∈ span.years, 0 ≤ year) ↔ 0 ≤ span.first := by
  have ordered := span.first_le_last
  constructor
  · intro nonneg
    exact nonneg span.first (span.mem_years.mpr ⟨Int.le_refl span.first, ordered⟩)
  · intro started year member
    have bounds := span.mem_years.mp member
    omega

theorem isCalendarYear_of_mem {year : Int} (member : year ∈ span.years) :
    isCalendarYear year = true ∧ isCalendarYear (year + 1) = true := by
  have bounds := span.mem_years.mp member
  have exists_first := span.first_exists
  have exists_next := span.next_exists
  simp only [isCalendarYear, Bool.and_eq_true, decide_eq_true_eq]
  omega

theorem nodup_years : span.years.Nodup := by
  apply List.Pairwise.map _ _ List.nodup_range
  intro first second different same
  omega

/-- The first year whose successor lies above a year is that year itself. -/
theorem find?_years {year : Int} (member : year ∈ span.years) :
    span.years.find? (fun other => year < other + 1) = some year := by
  have bounds := span.mem_years.mp member
  have found : (List.range span.length).find?
      ((fun other => decide (year < other + 1)) ∘ fun index : Nat => span.first + (index : Int)) =
        some (year - span.first).toNat := by
    rw [List.find?_range_eq_some]
    refine ⟨?_, ?_, ?_⟩
    · simp only [Function.comp_apply, decide_eq_true_eq]
      omega
    · rw [List.mem_range, length]
      omega
    · intro earlier before
      simp only [Function.comp_apply, Bool.not_eq_true', decide_eq_false_iff_not]
      omega
  rw [years, List.find?_map, found]
  simp
  omega

theorem find?_years_of_last_lt {year : Int} (beyond : span.last < year) :
    span.years.find? (fun other => year < other + 1) = none := by
  apply List.find?_eq_none.mpr
  intro other member
  have bounds := span.mem_years.mp member
  rw [decide_eq_true_eq]
  omega

/-! ## The months of the years -/

/-- The months of a span with their years, in order. -/
def months : List (Int × Month) :=
  span.years.flatMap fun year => Month.calendarOrder.map fun month => (year, month)

theorem mem_months {year : Int} {month : Month} :
    (year, month) ∈ span.months ↔ year ∈ span.years := by
  simp [months, Month.mem_calendarOrder]

theorem nodup_months : span.months.Nodup := by
  apply List.pairwise_flatMap.mpr
  constructor
  · intro year member
    apply List.Pairwise.map _ _ Month.nodup_calendarOrder
    intro first second different same
    exact different (congrArg Prod.snd same)
  · apply span.nodup_years.imp
    intro first second different early inFirst late inSecond same
    obtain ⟨month, _, rfl⟩ := List.mem_map.mp inFirst
    obtain ⟨other, _, rfl⟩ := List.mem_map.mp inSecond
    exact different (congrArg Prod.fst same)

end YearSpan

end TablePartitioning
