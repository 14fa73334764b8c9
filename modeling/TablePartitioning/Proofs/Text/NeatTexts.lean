import Mathlib.Data.List.TakeWhile
import TablePartitioning.Proofs.Text.Trimming
import TablePartitioning.Text.Basic

/-!
# Texts without blanks around them

A text is neat when it is not empty and no blank stands at its ends: it is what trimming leaves of
any text that is not blank, and trimming leaves it alone.  Blanks around a whole text are blanks
around its first and its last piece, so that it makes no difference to the trimmed pieces whether
the text is trimmed before it is cut.
-/

namespace TablePartitioning.Text

/-- A text that is not empty and has no blank at its ends. -/
structure Neat (text : String) : Prop where
  nonempty : text ≠ ""
  first : ∀ c, text.toList.head? = some c → isBlank c = false
  last : ∀ c, text.toList.getLast? = some c → isBlank c = false

variable {removed : Char → Bool} {chars before after : List Char} {c separator : Char}
  {text : String}

/-! ## Characters of a class around others -/

theorem dropWhile_eq_self (first : ∀ c, chars.head? = some c → removed c = false) :
    chars.dropWhile removed = chars := by
  cases chars with
  | nil => rfl
  | cons c rest => rw [List.dropWhile_cons_of_neg (by simpa using first c rfl)]

theorem trimWhere_append_left (all : ∀ c ∈ before, removed c = true) :
    trimWhere removed (before ++ chars) = trimWhere removed chars := by
  rw [trimWhere, List.dropWhile_append_of_pos all, ← trimWhere]

theorem trimWhere_append_right (all : ∀ c ∈ after, removed c = true) :
    trimWhere removed (chars ++ after) = trimWhere removed chars := by
  rw [trimWhere, List.dropWhile_append]
  split
  · next empty =>
      have nothing : after.dropWhile removed = [] := (dropWhile_eq_nil removed after).2 all
      rw [nothing, trimWhere, List.isEmpty_iff.mp empty]
  · have reversed : ∀ c ∈ after.reverse, removed c = true :=
      fun c member => all c (List.mem_reverse.mp member)
    rw [List.reverse_append, List.dropWhile_append_of_pos reversed, trimWhere]

/-- What trimming takes away is of the class. -/
theorem exists_trimWhere (removed : Char → Bool) (chars : List Char) :
    ∃ before after, chars = before ++ trimWhere removed chars ++ after ∧
      (∀ c ∈ before, removed c = true) ∧ ∀ c ∈ after, removed c = true := by
  refine ⟨chars.takeWhile removed, ((chars.dropWhile removed).reverse.takeWhile removed).reverse,
    ?_, fun c member => List.mem_takeWhile_imp member,
    fun c member => List.mem_takeWhile_imp (List.mem_reverse.mp member)⟩
  rw [trimWhere, List.append_assoc, ← List.reverse_append, List.takeWhile_append_dropWhile,
    List.reverse_reverse, List.takeWhile_append_dropWhile]

theorem getLast?_trimWhere (last : (trimWhere removed chars).getLast? = some c) :
    removed c = false := by
  rw [trimWhere, List.getLast?_reverse] at last
  exact head?_dropWhile last

theorem head?_trimWhere (head : (trimWhere removed chars).head? = some c) : removed c = false := by
  -- What is left in the end is a beginning of what the first step leaves.
  have isPrefix : trimWhere removed chars <+: chars.dropWhile removed :=
    List.reverse_suffix.mp (by
      rw [trimWhere, List.reverse_reverse]
      exact List.dropWhile_suffix removed)
  obtain ⟨rest, split⟩ := isPrefix
  have whole : (chars.dropWhile removed).head? = some c := by
    rw [← split, List.head?_append, head, Option.some_or]
  exact head?_dropWhile whole

theorem trimWhere_eq_self (first : ∀ c, chars.head? = some c → removed c = false)
    (last : ∀ c, chars.getLast? = some c → removed c = false) :
    trimWhere removed chars = chars := by
  rw [trimWhere, dropWhile_eq_self first, dropWhile_eq_self, List.reverse_reverse]
  intro c head
  exact last c (by rwa [List.head?_reverse] at head)

/-- Behind characters that are kept, trimming leaves a beginning of what follows them. -/
theorem exists_trimWhere_append (nonempty : before ≠ [])
    (kept : ∀ c ∈ before, removed c = false) (after : List Char) :
    ∃ left, left <+: after ∧ trimWhere removed (before ++ after) = before ++ left := by
  have started : (before ++ after).dropWhile removed = before ++ after := by
    cases before with
    | nil => exact absurd rfl nonempty
    | cons c rest => rw [List.cons_append, List.dropWhile_cons, kept c List.mem_cons_self]; rfl
  have ended : before.reverse.dropWhile removed = before.reverse :=
    dropWhile_of_kept fun c member => kept c (List.mem_reverse.mp member)
  refine ⟨(after.reverse.dropWhile removed).reverse, ?_, ?_⟩
  · rw [← List.reverse_suffix, List.reverse_reverse]
    exact List.dropWhile_suffix removed
  · rw [trimWhere, started, List.reverse_append, List.dropWhile_append]
    split
    · next empty =>
        rw [ended, List.isEmpty_iff.mp empty, List.reverse_reverse, List.reverse_nil,
          List.append_nil]
    · rw [List.reverse_append, List.reverse_reverse]

/-! ## Neat texts -/

theorem Neat.trim_eq (neat : Neat text) : trim text = text := by
  rw [trim, trimWhere_eq_self neat.first neat.last, String.ofList_toList]

theorem neat_trim (filled : trim text ≠ "") : Neat (trim text) where
  nonempty := filled
  first _ head := head?_trimWhere (by rwa [toList_trim] at head)
  last _ last := getLast?_trimWhere (by rwa [toList_trim] at last)

theorem Neat.isBlankText_eq (neat : Neat text) : isBlankText text = false := by
  rw [← Bool.not_eq_true, isBlankText_iff_trim, neat.trim_eq]
  exact neat.nonempty

/-! ## Pieces -/

theorem splitOn_append_left (absent : separator ∉ before) :
    (before ++ chars).splitOn separator = (chars.splitOn separator).modifyHead (before ++ ·) := by
  induction before with
  | nil =>
      rw [List.nil_append]
      cases chars.splitOn separator <;> rfl
  | cons c rest inductionHypothesis =>
      rw [List.mem_cons, not_or] at absent
      have different : (c == separator) = false := beq_false_of_ne (Ne.symm absent.1)
      rw [List.cons_append, List.splitOn_cons_eq_if_modifyHead, different,
        inductionHypothesis absent.2]
      cases chars.splitOn separator <;> rfl

theorem splitOn_append_right (chars : List Char) (absent : separator ∉ after) :
    ∃ pieces last, chars.splitOn separator = pieces ++ [last] ∧
      (chars ++ after).splitOn separator = pieces ++ [last ++ after] := by
  induction chars with
  | nil => exact ⟨[], [], by simp, by simpa using List.splitOn_eq_singleton absent⟩
  | cons c rest inductionHypothesis =>
      obtain ⟨pieces, last, whole, longer⟩ := inductionHypothesis
      rw [List.cons_append, List.splitOn_cons_eq_if_modifyHead,
        List.splitOn_cons_eq_if_modifyHead, whole, longer]
      by_cases same : c = separator
      · exact ⟨[] :: pieces, last, by simp [same], by simp [same]⟩
      · cases pieces with
        | nil => exact ⟨[], c :: last, by simp [same], by simp [same]⟩
        | cons first others => exact ⟨(c :: first) :: others, last, by simp [same], by simp [same]⟩

/-- The first piece starts as the text does, up to the first character that is not of a class, where
the separator is not of it. -/
theorem takeWhile_head_splitOn {pieces : List (List Char)} (ends : removed separator = false)
    {first : List Char} (cut : chars.splitOn separator = first :: pieces) :
    first.takeWhile removed = chars.takeWhile removed := by
  induction chars generalizing first pieces with
  | nil =>
      cases cut
      rfl
  | cons c rest inductionHypothesis =>
      rw [List.splitOn_cons_eq_if_modifyHead] at cut
      split at cut
      · next same =>
          cases cut
          rw [eq_of_beq same, List.takeWhile_cons_of_neg (by simp [ends]), List.takeWhile_nil]
      · obtain ⟨inner, others, later⟩ :=
          List.exists_cons_of_ne_nil (List.splitOn_ne_nil separator rest)
        rw [later] at cut
        cases cut
        rw [List.takeWhile_cons, List.takeWhile_cons, inductionHypothesis later]

/-- The pieces of a text without the characters of a class around them are those of the trimmed
text, where the separator is not of the class. -/
theorem map_trimWhere_splitOn (kept : removed separator = false) (chars : List Char) :
    ((trimWhere removed chars).splitOn separator).map (trimWhere removed) =
      (chars.splitOn separator).map (trimWhere removed) := by
  obtain ⟨before, after, split, early, late⟩ := exists_trimWhere removed chars
  have absent {outside : List Char} (all : ∀ c ∈ outside, removed c = true) :
      separator ∉ outside := by
    intro member
    rw [all separator member] at kept
    cases kept
  obtain ⟨pieces, last, inner, longer⟩ :=
    splitOn_append_right (trimWhere removed chars) (absent late)
  have whole : chars.splitOn separator = (pieces ++ [last ++ after]).modifyHead (before ++ ·) := by
    rw [← longer, ← splitOn_append_left (absent early), ← List.append_assoc, ← split]
  rw [inner, whole]
  cases pieces with
  | nil => simp [trimWhere_append_left early, trimWhere_append_right late]
  | cons first others => simp [trimWhere_append_left early, trimWhere_append_right late]

theorem map_trim_pieces_trim (kept : isBlank separator = false) (text : String) :
    (pieces separator (trim text)).map trim = (pieces separator text).map trim := by
  have same := congrArg (List.map String.ofList) (map_trimWhere_splitOn kept text.toList)
  simpa [pieces, trim, Function.comp_def] using same

/-- A text is put together from pieces without the separator in one way only. -/
theorem pieces_intercalate {texts : List String} (nonempty : texts ≠ [])
    (apart : ∀ text ∈ texts, separator ∉ text.toList) :
    pieces separator ((String.singleton separator).intercalate texts) = texts := by
  have split : ([separator].intercalate (texts.map String.toList)).splitOn separator =
      texts.map String.toList := by
    apply List.splitOn_intercalate
    case hx =>
      intro chars member
      obtain ⟨text, inTexts, rfl⟩ := List.mem_map.mp member
      exact apart text inTexts
    case hls => simpa using nonempty
  rw [pieces, String.toList_intercalate, String.toList_singleton, split]
  simp [Function.comp_def]

theorem intercalate_pieces (separator : Char) (text : String) :
    (String.singleton separator).intercalate (pieces separator text) = text := by
  rw [← String.toList_inj, String.toList_intercalate, String.toList_singleton]
  simp [pieces, Function.comp_def]

theorem not_mem_of_mem_splitOn {piece : List Char} (member : piece ∈ chars.splitOn separator) :
    separator ∉ piece := by
  induction chars generalizing piece with
  | nil => simp_all
  | cons c rest inductionHypothesis =>
      rw [List.splitOn_cons_eq_if_modifyHead] at member
      split at member
      · rcases List.mem_cons.mp member with rfl | later
        · exact List.not_mem_nil
        · exact inductionHypothesis later
      · next different =>
          cases whole : rest.splitOn separator with
          | nil => exact absurd whole (List.splitOn_ne_nil separator rest)
          | cons first others =>
              rw [whole] at member inductionHypothesis
              rcases List.mem_cons.mp member with rfl | later
              · rw [List.mem_cons, not_or]
                refine ⟨?_, inductionHypothesis List.mem_cons_self⟩
                rintro rfl
                exact different BEq.rfl
              · exact inductionHypothesis (List.mem_cons_of_mem first later)

theorem not_mem_of_mem_pieces {piece : String} (member : piece ∈ pieces separator text) :
    separator ∉ piece.toList := by
  obtain ⟨chars, inSplit, rfl⟩ := List.mem_map.mp member
  rw [String.toList_ofList]
  exact not_mem_of_mem_splitOn inSplit

end TablePartitioning.Text
