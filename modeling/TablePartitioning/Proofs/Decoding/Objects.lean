import TablePartitioning.Proofs.Decoding.Records

/-!
# Objects entry by entry

An object decodes when each entry of it decodes on its own and no field is spelled twice.  The
names of a field can stand for one another, and the order of the entries does not count.
-/

namespace TablePartitioning.RecordShape

variable {Value Record : Type}

/-- No two entries are for one field, where the names of each field are given. -/
def SpelledOnce (names : List (List String)) (entries : List (String × Value)) : Prop :=
  entries.Pairwise fun first second => ∀ own ∈ names, first.1 ∈ own → second.1 ∉ own

variable {shape : RecordShape Value Record} {entries others before after : List (String × Value)}
  {first second name : String} {value : Value} {seen : List String} {record : Record}

theorem storable_iff :
    shape.Storable [] entries ↔
      (∀ entry ∈ entries, shape.Storable [] [entry]) ∧
        SpelledOnce (shape.fields.map (·.names)) entries := by
  constructor
  · rintro ⟨accepted, -, once⟩
    refine ⟨fun entry member => ⟨?_, by simp, List.pairwise_singleton _ _⟩, ?_⟩
    · rw [List.forall_mem_singleton]
      exact accepted entry member
    · simpa only [SpelledOnce, List.forall_mem_map] using once
  · rintro ⟨alone, once⟩
    refine ⟨fun entry member => (alone entry member).accepted entry (List.mem_singleton_self entry),
      by simp, ?_⟩
    simpa only [SpelledOnce, List.forall_mem_map] using once

/-- An object decodes exactly when each of its entries does alone and no field is spelled twice. -/
theorem Lenient.ofEntries_ok_iff_alone (lenient : shape.Lenient) :
    (∃ decoded, shape.ofEntries entries = .ok decoded) ↔
      (∀ entry ∈ entries, ∃ alone, shape.ofEntries [entry] = .ok alone) ∧
        SpelledOnce (shape.fields.map (·.names)) entries := by
  have storable (entries : List (String × Value)) :
      (∃ decoded, shape.ofEntries entries = .ok decoded) ↔ shape.Storable [] entries := by
    rw [← lenient.storeEntries_ok_iff]
    simp only [lenient.ofEntries_eq_ok_iff]
    exact ⟨fun ⟨decoded, seen, stores⟩ => ⟨(seen, decoded), stores⟩,
      fun ⟨(seen, decoded), stores⟩ => ⟨decoded, seen, stores⟩⟩
  simp only [storable]
  exact storable_iff

/-- An entry is stored alike under every name of its field. -/
theorem storeEntries_renamed
    (alike : shape.fields.find? (·.answersTo first) = shape.fields.find? (·.answersTo second)) :
    shape.storeEntries (before ++ (first, value) :: after) seen record =
      shape.storeEntries (before ++ (second, value) :: after) seen record := by
  induction before generalizing seen record with
  | nil => rw [List.nil_append, List.nil_append, storeEntries, storeEntries, alike]
  | cons entry before inductionHypothesis =>
      rw [List.cons_append, List.cons_append, storeEntries, storeEntries]
      simp only [inductionHypothesis]

/-- The names of a field can stand for one another. -/
theorem Lenient.ofEntries_renamed (lenient : shape.Lenient) {own : List String}
    (names : own ∈ shape.fields.map (·.names)) (firstNamed : first ∈ own)
    (secondNamed : second ∈ own) :
    shape.ofEntries (before ++ (first, value) :: after) =
      shape.ofEntries (before ++ (second, value) :: after) := by
  obtain ⟨field, member, rfl⟩ := List.mem_map.mp names
  have alike :
      shape.fields.find? (·.answersTo first) = shape.fields.find? (·.answersTo second) := by
    rw [lenient.find?_eq_some_iff.mpr ⟨member, firstNamed⟩,
      lenient.find?_eq_some_iff.mpr ⟨member, secondNamed⟩]
  rw [ofEntries, ofEntries, storeEntries_renamed alike]

theorem lookup_eq_of_perm (distinct : (entries.map Prod.fst).Nodup) (perm : entries.Perm others) :
    entries.lookup name = others.lookup name := by
  have othersDistinct : (others.map Prod.fst).Nodup := (perm.map Prod.fst).nodup_iff.mp distinct
  cases found : entries.lookup name with
  | some value => exact (lookup_of_mem othersDistinct (perm.mem_iff.mp (mem_of_lookup found))).symm
  | none =>
      cases foundOther : others.lookup name with
      | none => rfl
      | some value =>
          rw [lookup_of_mem distinct (perm.mem_iff.mpr (mem_of_lookup foundOther))] at found
          cases found

/-! ## What every store preserves -/

/-- What holds of a record whatever field is stored into it. -/
def Preserves (shape : RecordShape Value Record) (P : Record → Prop) : Prop :=
  ∀ field ∈ shape.fields, ∀ value record stored, field.store value record = .ok stored →
    P record → P stored

variable {P : Record → Prop} {values : List Value} {decoded : Record}

theorem Preserves.storeEntries (preserves : shape.Preserves P) {stored : List String × Record}
    (stores : shape.storeEntries entries seen record = .ok stored) (before : P record) :
    P stored.2 := by
  induction entries generalizing seen record with
  | nil =>
      cases stores
      exact before
  | cons entry rest inductionHypothesis =>
      obtain ⟨name, value⟩ := entry
      rw [RecordShape.storeEntries] at stores
      split at stores
      · exact inductionHypothesis stores before
      · next field found =>
          split at stores
          · cases stores
          · split at stores
            · cases stores
            · next next result =>
                have member := List.mem_of_find?_eq_some found
                have after := preserves field member value record next result before
                exact inductionHypothesis stores after

theorem Preserves.storeItems {fields : List (RecordField Value Record)}
    (preserves : shape.Preserves P) (among : ∀ field ∈ fields, field ∈ shape.fields)
    (stores : storeItems fields values record = .ok decoded) (before : P record) : P decoded := by
  induction fields generalizing values record with
  | nil =>
      cases stores
      exact before
  | cons field fields inductionHypothesis =>
      rw [List.forall_mem_cons] at among
      cases values with
      | nil =>
          cases stores
          exact before
      | cons value values =>
          rw [RecordShape.storeItems] at stores
          split at stores
          · cases stores
          · next next result =>
              exact inductionHypothesis among.2 stores
                (preserves field among.1 value record next result before)

/-- It holds of all that is decoded when it does of the record before any field is read. -/
theorem Preserves.decode {source : Source Value} (preserves : shape.Preserves P)
    (initially : P shape.initial) (decodes : shape.decode source value = .ok decoded) :
    P decoded := by
  rw [RecordShape.decode] at decodes
  split at decodes
  · rw [ofEntries] at decodes
    split at decodes
    · cases decodes
    · next seen record result =>
        split at decodes
        · cases decodes
        · cases decodes
          exact preserves.storeEntries result initially
  · rw [ofItems] at decodes
    split at decodes
    · cases decodes
    · next record result =>
        split at decodes
        · cases decodes
        · split at decodes
          · cases decodes
          · cases decodes
            exact preserves.storeItems (fun _ member => member) result initially
  · cases decodes

end TablePartitioning.RecordShape
