import TablePartitioning.Config.KeyPath

/-!
# Paths of texts

The path of a text begins with a key.  It is the path to a field of a table exactly when the text
is the two names with a point between them.
-/

namespace TablePartitioning.KeyPath

variable {written chars : List Char} {steps : List Step} {text table name : String}

theorem steps?_index (reads : steps? (.index written) chars = some steps) :
    ∃ place rest, steps = .index place :: rest := by
  induction chars generalizing written with
  | nil => cases reads
  | cons c chars inductionHypothesis =>
      rw [steps?] at reads
      split at reads
      · simp only [index?, bind, Option.bind_eq_some_iff, pure, Option.some.injEq] at reads
        obtain ⟨step, place, later, -, rfl⟩ := reads
        split at place
        · cases place
        · obtain ⟨number, -, rfl⟩ := Option.map_eq_some_iff.mp place
          exact ⟨number, later, rfl⟩
      · exact inductionHypothesis reads

/-- What reading on from a key can find: the end of the text, another character of the key, or a
point or a bracket after it. -/
inductive ReadsKey (written : List Char) : List Char → List Step → Prop
  | ended : ReadsKey written [] [.key (String.ofList written.reverse)]
  | further {c : Char} {rest : List Char} {steps : List Step}
      (reads : steps? (.key (c :: written)) rest = some steps) :
      ReadsKey written (c :: rest) steps
  | point {rest : List Char} {later : List Step} (reads : steps? (.key []) rest = some later) :
      ReadsKey written ('.' :: rest) (.key (String.ofList written.reverse) :: later)
  | bracket {c : Char} {rest : List Char} {later : List Step}
      (reads : steps? (.index []) rest = some later) :
      ReadsKey written (c :: rest) (.key (String.ofList written.reverse) :: later)

theorem key?_eq_some {step : Step} (ends : key? written = some step) :
    step = .key (String.ofList written.reverse) := by
  rw [key?] at ends
  split at ends
  · cases ends
  · exact (Option.some.inj ends).symm

theorem readsKey_of_steps? (reads : steps? (.key written) chars = some steps) :
    ReadsKey written chars steps := by
  cases chars with
  | nil =>
      rw [steps?, Option.map_eq_some_iff] at reads
      obtain ⟨step, ends, rfl⟩ := reads
      exact key?_eq_some ends ▸ .ended
  | cons c rest =>
      rw [steps?] at reads
      split at reads
      · exact .further reads
      · simp only [bind, Option.bind_eq_some_iff] at reads
        obtain ⟨step, ends, reads⟩ := reads
        obtain rfl := key?_eq_some ends
        split at reads
        · next point =>
            obtain ⟨later, readsLater, found⟩ := Option.bind_eq_some_iff.mp reads
            cases found
            exact point ▸ .point readsLater
        · split at reads
          · obtain ⟨later, readsLater, found⟩ := Option.bind_eq_some_iff.mp reads
            cases found
            exact .bracket readsLater
          · cases reads

theorem steps?_key (reads : steps? (.key written) chars = some steps) :
    ∃ name rest, steps = .key name :: rest := by
  induction chars generalizing written with
  | nil => cases readsKey_of_steps? reads with | ended => exact ⟨_, _, rfl⟩
  | cons c chars inductionHypothesis =>
      cases readsKey_of_steps? reads with
      | further reads => exact inductionHypothesis reads
      | point reads => exact ⟨_, _, rfl⟩
      | bracket reads => exact ⟨_, _, rfl⟩

/-- Every path begins with a key. -/
theorem ofText_eq_key_cons (text : String) : ∃ name rest, ofText text = .key name :: rest := by
  rw [ofText]
  cases reads : steps? (.key []) text.toList with
  | none => exact ⟨text, [], rfl⟩
  | some steps => exact steps?_key reads

theorem chars_of_steps?_singleton (reads : steps? (.key written) chars = some [.key name]) :
    written.reverse ++ chars = name.toList := by
  induction chars generalizing written with
  | nil => cases readsKey_of_steps? reads with | ended => simp
  | cons c chars inductionHypothesis =>
      cases readsKey_of_steps? reads with
      | further reads => simpa using inductionHypothesis reads
      | point reads => obtain ⟨_, _, impossible⟩ := steps?_key reads; cases impossible
      | bracket reads => obtain ⟨_, _, impossible⟩ := steps?_index reads; cases impossible

theorem chars_of_steps?_pair (reads : steps? (.key written) chars = some [.key table, .key name]) :
    written.reverse ++ chars = table.toList ++ '.' :: name.toList := by
  induction chars generalizing written with
  | nil => cases readsKey_of_steps? reads
  | cons c chars inductionHypothesis =>
      cases readsKey_of_steps? reads with
      | further reads => simpa using inductionHypothesis reads
      | point reads => simpa using chars_of_steps?_singleton reads
      | bracket reads => obtain ⟨_, _, impossible⟩ := steps?_index reads; cases impossible

/-- A text that is a key as it stands. -/
def IsKey (text : String) : Prop := text ≠ "" ∧ ∀ c ∈ text.toList, isKeyChar c = true

instance : Decidable (IsKey text) :=
  decidable_of_iff (text ≠ "" ∧ text.toList.all isKeyChar = true) (by rw [IsKey, List.all_eq_true])

theorem steps?_append (keyChars : ∀ c ∈ chars, isKeyChar c = true) (rest : List Char) :
    steps? (.key written) (chars ++ rest) = steps? (.key (chars.reverse ++ written)) rest := by
  induction chars generalizing written with
  | nil => rfl
  | cons c chars inductionHypothesis =>
      rw [List.forall_mem_cons] at keyChars
      rw [List.cons_append, steps?, if_pos keyChars.1, inductionHypothesis keyChars.2]
      simp

theorem IsKey.key?_reverse (isKey : IsKey text) :
    key? (text.toList.reverse ++ []) = some (.key text) := by
  have nonempty : text.toList ≠ [] := fun empty => isKey.1 (String.toList_eq_nil_iff.mp empty)
  simp [key?, nonempty]

theorem IsKey.steps?_toList (isKey : IsKey text) :
    steps? (.key []) text.toList = some [.key text] := by
  have reads : steps? (.key []) (text.toList ++ []) = _ := steps?_append isKey.2 []
  rw [List.append_nil, steps?, isKey.key?_reverse] at reads
  exact reads

theorem ofText_eq_pair_iff (isTable : IsKey table) (isName : IsKey name) :
    ofText text = [.key table, .key name] ↔ text = table ++ "." ++ name := by
  constructor
  · intro path
    rw [ofText] at path
    cases reads : steps? (.key []) text.toList with
    | none => simp [reads] at path
    | some steps =>
        rw [reads, Option.getD_some] at path
        have chars := chars_of_steps?_pair (path ▸ reads)
        apply String.toList_injective
        simpa using chars
  · rintro rfl
    have chars : (table ++ "." ++ name).toList = table.toList ++ '.' :: name.toList := by simp
    rw [ofText, chars, steps?_append isTable.2, steps?, if_neg (by decide), isTable.key?_reverse]
    simp [isName.steps?_toList]

end TablePartitioning.KeyPath
