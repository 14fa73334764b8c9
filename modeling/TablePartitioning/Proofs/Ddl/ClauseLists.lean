import TablePartitioning.Ddl.Fragments
import TablePartitioning.Proofs.Text.Punctuation

/-!
# How a clause list ends

A clause list is made item by item, of several items at a time, or of items that are there already.
Its commas stand between items, so that the last item stands between the last comma and the closing
parenthesis.  Whether more than blanks stands there is a matter of this item alone, wherever else
blank items are; nothing keeps a blank one from being the last.
-/

namespace TablePartitioning.Ddl.ClauseList

open Text (CommaBefore Punctuation Unmarked)

/-- A step in which a clause list is made. -/
inductive Construction where
  | push (item : String)
  | extend (items : List String)
  | collect (items : List String)

namespace Construction

/-- The items that a step brings. -/
def items : Construction → List String
  | push item => [item]
  | extend items => items
  | collect items => items

/-- What a step makes of a list; collecting starts anew. -/
def apply (list : ClauseList) : Construction → ClauseList
  | push item => list.push item
  | extend items => list.extend items
  | collect items => ⟨items⟩

end Construction

/-- The list that steps make. -/
def constructed (steps : List Construction) : ClauseList := steps.foldl Construction.apply empty

/-- A list whose last item is more than blanks, unless it is the only one. -/
def EndsFilled (list : ClauseList) : Prop :=
  ∀ last, list.items.getLast? = some last → list.length = 1 ∨ Text.isBlankText last = false

variable {list : ClauseList} {steps : List Construction} {item : String}

/-! ## Where items come from -/

theorem mem_items_apply {step : Construction} (member : item ∈ (step.apply list).items) :
    item ∈ list.items ∨ item ∈ step.items := by
  cases step with
  | push added => exact List.mem_append.mp member
  | extend added => exact List.mem_append.mp member
  | collect added => exact .inr member

theorem mem_items_foldl (member : item ∈ (steps.foldl Construction.apply list).items) :
    item ∈ list.items ∨ ∃ step ∈ steps, item ∈ step.items := by
  induction steps generalizing list with
  | nil => exact .inl member
  | cons step rest inductionHypothesis =>
      rcases inductionHypothesis member with early | ⟨later, inRest, brought⟩
      · rcases mem_items_apply early with before | now
        · exact .inl before
        · exact .inr ⟨step, List.mem_cons_self, now⟩
      · exact .inr ⟨later, List.mem_cons_of_mem step inRest, brought⟩

theorem mem_items_constructed (member : item ∈ (constructed steps).items) :
    ∃ step ∈ steps, item ∈ step.items := by
  rcases mem_items_foldl member with inEmpty | brought
  · cases inEmpty
  · exact brought

/-! ## The end of a list -/

theorem endsFilled_iff {before : List String} {last : String}
    (split : list.items = before ++ [last]) :
    list.EndsFilled ↔ (!before.isEmpty && Text.isBlankText last) = false := by
  simp [EndsFilled, length, split, Decidable.or_iff_not_imp_left]

/-- What has been read of a list before its closing parenthesis. -/
theorem read_opened {before : List String} {last : String}
    (split : list.items = before ++ [last]) (unmarked : ∀ item ∈ list.items, Unmarked item) :
    Punctuation.read ⟨0, false⟩ ("(" ++ ", ".intercalate list.items).toList =
      some ⟨1, !before.isEmpty && Text.isBlankText last⟩ := by
  have opens : Punctuation.read ⟨0, false⟩ "(".toList = some ⟨1, false⟩ := rfl
  rw [split] at unmarked
  rw [String.toList_append, Punctuation.read_append, opens, Option.bind_some, split,
    Punctuation.read_intercalate unmarked, Bool.false_or]

theorem separated_text_iff (unmarked : ∀ item ∈ list.items, Unmarked item) :
    ¬ CommaBefore (some ')') list.text.toList ↔ list.EndsFilled := by
  rcases List.eq_nil_or_concat list.items with nothing | ⟨before, last, split⟩
  · have closed : Text.Closed list.text := by
      rw [text, nothing]
      rfl
    have ends : list.EndsFilled := by simp [EndsFilled, nothing]
    exact iff_of_true (Text.closed_iff.mp closed).1.separated ends
  · rw [List.concat_eq_append] at split
    have opened := read_opened split unmarked
    have chars : list.text.toList = ("(" ++ ", ".intercalate list.items).toList ++ [')'] := by
      rw [text, String.toList_append]
      rfl
    rw [endsFilled_iff split]
    cases pending : !before.isEmpty && Text.isBlankText last with
    | false =>
        have closed : Text.Closed list.text := by
          rw [Text.Closed, chars, Punctuation.read_append, opened, pending]
          rfl
        exact iff_of_true (Text.closed_iff.mp closed).1.separated rfl
    | true =>
        have trailing : CommaBefore none ("(" ++ ", ".intercalate list.items).toList :=
          (Punctuation.read_eq_some_iff.mp opened).comma.mp pending
        rw [chars]
        exact iff_of_false (not_not_intro (trailing.concat rfl)) Bool.noConfusion

/-- No comma is left before the closing parenthesis by exactly those constructions that do not end
in a blank item behind others. -/
theorem constructed_separated_iff (steps : List Construction)
    (unmarked : ∀ step ∈ steps, ∀ item ∈ step.items, Unmarked item) :
    ¬ CommaBefore (some ')') (constructed steps).text.toList ↔ (constructed steps).EndsFilled := by
  apply separated_text_iff
  intro item member
  obtain ⟨step, inSteps, brought⟩ := mem_items_constructed member
  exact unmarked step inSteps item brought

/-- Blank items that are not the last one. -/
def blankInside : List Construction := [.collect ["", "a"], .push " ", .extend ["\t", "b c"]]

theorem blankInside_separated :
    (∀ step ∈ blankInside, ∀ item ∈ step.items, Unmarked item) ∧
      ¬ CommaBefore (some ')') (constructed blankInside).text.toList := by
  have unmarked : ∀ step ∈ blankInside, ∀ item ∈ step.items, Unmarked item := by
    simp [blankInside, Construction.items, Unmarked]
  refine ⟨unmarked, (constructed_separated_iff blankInside unmarked).mpr ?_⟩
  rintro last ⟨⟩
  exact .inr rfl

/-- An empty item behind another one, added as any other. -/
def emptyLast : List Construction := [.push "a", .push ""]

/-- The list is written with its comma before the closing parenthesis. -/
theorem emptyLast_not_separated :
    (∀ step ∈ emptyLast, ∀ item ∈ step.items, Unmarked item) ∧
      (constructed emptyLast).text = "(a, )" ∧
      CommaBefore (some ')') (constructed emptyLast).text.toList := by
  have written : (constructed emptyLast).text = "(a, )" := rfl
  refine ⟨?_, written, ?_⟩
  · simp [emptyLast, Construction.items, Unmarked]
  · rw [written]
    exact ⟨[' ', ')'], ⟨['(', 'a'], rfl⟩, rfl⟩

end TablePartitioning.Ddl.ClauseList
