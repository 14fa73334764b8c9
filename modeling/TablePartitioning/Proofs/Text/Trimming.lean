import TablePartitioning.Proofs.Text.Numeral
import TablePartitioning.Text.Basic

/-!
# What trimming keeps

Trimming adds nothing, and it takes away nothing but characters of the class: a character that is
not of the class is in the trimmed text exactly when it was in the text.
-/

namespace TablePartitioning.Text

variable {removed : Char → Bool} {chars : List Char} {c : Char}

theorem mem_of_mem_trimWhere (member : c ∈ trimWhere removed chars) : c ∈ chars := by
  have early : c ∈ (chars.dropWhile removed).reverse :=
    List.dropWhile_subset _ (List.mem_reverse.mp member)
  exact List.dropWhile_subset _ (List.mem_reverse.mp early)

theorem mem_dropWhile_of_kept (member : c ∈ chars) (kept : removed c = false) :
    c ∈ chars.dropWhile removed := by
  induction chars with
  | nil => cases member
  | cons first rest inductionHypothesis =>
      cases drops : removed first with
      | false => simpa [drops] using member
      | true =>
          rcases List.mem_cons.mp member with rfl | later
          · rw [kept] at drops
            cases drops
          · simpa [drops] using inductionHypothesis later

theorem mem_trimWhere_of_kept (member : c ∈ chars) (kept : removed c = false) :
    c ∈ trimWhere removed chars := by
  have early : c ∈ (chars.dropWhile removed).reverse :=
    List.mem_reverse.mpr (mem_dropWhile_of_kept member kept)
  exact List.mem_reverse.mpr (mem_dropWhile_of_kept early kept)

theorem dropWhile_of_kept (kept : ∀ c ∈ chars, removed c = false) :
    chars.dropWhile removed = chars := by
  cases chars with
  | nil => rfl
  | cons first rest =>
      have stays := kept first List.mem_cons_self
      simp [stays]

theorem trimWhere_of_kept (kept : ∀ c ∈ chars, removed c = false) :
    trimWhere removed chars = chars := by
  have reversed : ∀ c ∈ chars.reverse, removed c = false := by
    intro c member
    exact kept c (List.mem_reverse.mp member)
  rw [trimWhere, dropWhile_of_kept kept, dropWhile_of_kept reversed, List.reverse_reverse]

/-- A character of the class at either end changes nothing. -/
theorem trimWhere_enclosed {first last : Char} (opening : removed first = true)
    (closing : removed last = true) :
    trimWhere removed (first :: (chars ++ [last])) = trimWhere removed chars := by
  rw [trimWhere, List.dropWhile_cons, if_pos opening, List.dropWhile_append]
  split
  · next empty => simp [trimWhere, List.isEmpty_iff.mp empty, closing]
  · rw [List.reverse_append, List.reverse_singleton, List.singleton_append, List.dropWhile_cons,
      if_pos closing]
    rfl

theorem isBlank_of_isDigit (digit : c.isDigit = true) : isBlank c = false := by
  have codes := Numeral.toNat_of_isDigit digit
  simp only [isBlank, Bool.or_eq_false_iff, Bool.and_eq_false_iff, decide_eq_false_iff_not,
    beq_eq_false_iff_ne]
  omega

end TablePartitioning.Text
