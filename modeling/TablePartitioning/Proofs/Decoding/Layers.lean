import TablePartitioning.Proofs.Decoding.Records

/-!
# Values over values

Two layers of values fit the fields of a record over each other, name by name, when each does by
itself and no field is spelled under one name above and under another below.
-/

namespace TablePartitioning.RecordShape

variable {Value Record : Type}

variable {shape : RecordShape Value Record} {field : RecordField Value Record} {name : String}
  {value : Value} {given other upper lower : String → Option Value}

instance : Decidable (shape.SpelledAlike upper lower) :=
  inferInstanceAs (Decidable (∀ field ∈ shape.fields, ∀ first ∈ field.names,
    ∀ second ∈ field.names, (upper first).isSome → (lower second).isSome → first = second))

theorem Fits.of_agree (fits : shape.Fits given)
    (agree : ∀ field ∈ shape.fields, ∀ name ∈ field.names, given name = other name) :
    shape.Fits other where
  accepted field member name named value found :=
    fits.accepted field member name named value ((agree field member name named).trans found)
  once field member first firstNamed second secondNamed firstGiven secondGiven :=
    fits.once field member first firstNamed second secondNamed
      (agree field member first firstNamed ▸ firstGiven)
      (agree field member second secondNamed ▸ secondGiven)

/-- Where two layers fit, they fit over each other exactly when they spell the fields alike. -/
theorem fits_or_iff (upperFits : shape.Fits upper) (lowerFits : shape.Fits lower) :
    shape.Fits (fun name => (upper name).or (lower name)) ↔ shape.SpelledAlike upper lower := by
  constructor
  · intro fits field member first firstNamed second secondNamed fromUpper fromLower
    exact fits.once field member first firstNamed second secondNamed
      (by simp [Option.isSome_or, fromUpper]) (by simp [Option.isSome_or, fromLower])
  · intro alike
    refine ⟨fun field member name named value found => ?_, ?_⟩
    · rcases Option.or_eq_some_iff.mp found with fromUpper | ⟨-, fromLower⟩
      · exact upperFits.accepted field member name named value fromUpper
      · exact lowerFits.accepted field member name named value fromLower
    · intro field member first firstNamed second secondNamed firstGiven secondGiven
      rw [Option.isSome_or, Bool.or_eq_true] at firstGiven secondGiven
      rcases firstGiven with firstUpper | firstLower <;>
      rcases secondGiven with secondUpper | secondLower
      · exact upperFits.once field member first firstNamed second secondNamed firstUpper secondUpper
      · exact alike field member first firstNamed second secondNamed firstUpper secondLower
      · exact (alike field member second secondNamed first firstNamed secondUpper firstLower).symm
      · exact lowerFits.once field member first firstNamed second secondNamed firstLower secondLower

theorem findSome?_of_agree {names : List String}
    (agree : ∀ name ∈ names, given name = other name) :
    names.findSome? given = names.findSome? other := by
  induction names with
  | nil => rfl
  | cons name names inductionHypothesis =>
      rw [List.forall_mem_cons] at agree
      rw [List.findSome?_cons, List.findSome?_cons, agree.1, inductionHypothesis agree.2]

theorem findSome?_eq_of_only {names : List String} (named : name ∈ names)
    (found : given name = some value)
    (only : ∀ other ∈ names, (given other).isSome → other = name) :
    names.findSome? given = some value := by
  have isSome : (names.findSome? given).isSome :=
    List.findSome?_isSome_iff.mpr ⟨name, named, by rw [found]; rfl⟩
  obtain ⟨first, foundFirst⟩ := Option.isSome_iff_exists.mp isSome
  obtain ⟨other, otherNamed, foundOther⟩ := List.exists_of_findSome?_eq_some foundFirst
  rw [only other otherNamed (by rw [foundOther]; rfl), found] at foundOther
  rw [foundFirst, foundOther]

/-- A field has the value from above under whatever name, else the one from below. -/
theorem findSome?_or (upperFits : shape.Fits upper) (alike : shape.SpelledAlike upper lower)
    (member : field ∈ shape.fields) :
    field.names.findSome? (fun name => (upper name).or (lower name)) =
      (field.names.findSome? upper).or (field.names.findSome? lower) := by
  cases found : field.names.findSome? upper with
  | none =>
      refine findSome?_of_agree fun name named => ?_
      rw [List.findSome?_eq_none_iff.mp found name named, Option.none_or]
  | some value =>
      obtain ⟨name, named, foundName⟩ := List.exists_of_findSome?_eq_some found
      have fromUpper : (upper name).isSome := by rw [foundName]; rfl
      refine findSome?_eq_of_only named (by rw [foundName]; rfl) fun other otherNamed isGiven => ?_
      rw [Option.isSome_or, Bool.or_eq_true] at isGiven
      rcases isGiven with otherUpper | otherLower
      · exact upperFits.once field member other otherNamed name named otherUpper fromUpper
      · exact (alike field member name named other otherNamed fromUpper otherLower).symm

end TablePartitioning.RecordShape
