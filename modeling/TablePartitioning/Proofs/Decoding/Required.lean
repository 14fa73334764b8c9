import Mathlib.Data.List.Basic
import TablePartitioning.Proofs.Decoding.Records

/-!
# Records whose fields are required

A record decodes from an object exactly when it does with all fields left to choice and each
required field is given.  Nothing under a name that is none of a field's changes what it decodes
to.
-/

namespace TablePartitioning

variable {Value Record : Type}

/-- A field that may be left out. -/
def RecordField.unrequired (field : RecordField Value Record) : RecordField Value Record :=
  { field with required := false }

namespace RecordShape

/-- A record all of whose fields may be left out. -/
def relaxed (shape : RecordShape Value Record) : RecordShape Value Record :=
  { shape with fields := shape.fields.map RecordField.unrequired, allowsShorter := true }

/-- Whether a field is read under a name. -/
def declares (shape : RecordShape Value Record) (name : String) : Bool :=
  shape.fields.any (·.answersTo name)

variable {shape : RecordShape Value Record} {field : RecordField Value Record} {name : String}
  {entries : List (String × Value)} {seen : List String} {record decoded : Record}

/-! ## Names of no field -/

theorem storeEntries_filter :
    shape.storeEntries (entries.filter fun entry => shape.declares entry.1) seen record =
      shape.storeEntries entries seen record := by
  induction entries generalizing seen record with
  | nil => rfl
  | cons entry rest inductionHypothesis =>
      obtain ⟨name, value⟩ := entry
      cases found : shape.fields.find? (·.answersTo name) with
      | none =>
          have foreign : shape.declares name = false := by
            rw [declares, List.any_eq_false]
            exact List.find?_eq_none.mp found
          rw [List.filter_cons_of_neg (by simp [foreign]), inductionHypothesis, storeEntries, found]
      | some field =>
          have answers : field.answersTo name = true :=
            (List.find?_eq_some_iff_append.mp found).1
          have declared : shape.declares name = true :=
            List.any_eq_true.mpr ⟨field, List.mem_of_find?_eq_some found, answers⟩
          rw [List.filter_cons_of_pos (by simpa using declared), storeEntries, storeEntries, found]
          dsimp only
          split
          · rfl
          · cases field.store value record with
            | error error => rfl
            | ok next => exact inductionHypothesis

/-- What decodes depends on the entries for fields only. -/
theorem ofEntries_filter :
    shape.ofEntries (entries.filter fun entry => shape.declares entry.1) =
      shape.ofEntries entries := by
  rw [ofEntries, ofEntries, storeEntries_filter]

/-! ## Fields left to choice -/

theorem names_unrequired : field.unrequired.names = field.names := rfl

theorem find?_relaxed :
    shape.relaxed.fields.find? (·.answersTo name) =
      (shape.fields.find? (·.answersTo name)).map RecordField.unrequired := by
  rw [relaxed, List.find?_map]
  rfl

theorem storeEntries_relaxed :
    shape.relaxed.storeEntries entries seen record = shape.storeEntries entries seen record := by
  induction entries generalizing seen record with
  | nil => rfl
  | cons entry rest inductionHypothesis =>
      obtain ⟨name, value⟩ := entry
      rw [storeEntries, storeEntries, find?_relaxed]
      cases shape.fields.find? (·.answersTo name) with
      | none => exact inductionHypothesis
      | some field =>
          simp only [Option.map_some, RecordField.unrequired, inductionHypothesis]

theorem relaxed_lenient
    (apart : shape.fields.Pairwise fun first second => ∀ name ∈ first.names, name ∉ second.names)
    (uniform : ∀ field ∈ shape.fields, ∀ value record stored,
      field.store value record = .ok stored → field.Accepts value) : shape.relaxed.Lenient where
  optional := by
    rw [relaxed, List.forall_mem_map]
    exact fun _ _ => rfl
  apart := List.pairwise_map.mpr apart
  uniform := by
    rw [relaxed, List.forall_mem_map]
    exact uniform
  shorter := rfl

/-- A field has been stored in the end when it had been before or is given. -/
theorem Lenient.mem_of_storeEntries (lenient : shape.Lenient) (member : field ∈ shape.fields)
    {stored : List String × Record}
    (stores : shape.storeEntries entries seen record = .ok stored) :
    field.name ∈ stored.1 ↔
      field.name ∈ seen ∨ ∃ entry ∈ entries, entry.1 ∈ field.names := by
  induction entries generalizing seen record with
  | nil =>
      cases stores
      simp
  | cons entry rest inductionHypothesis =>
      obtain ⟨name, value⟩ := entry
      rw [List.exists_mem_cons_iff]
      by_cases isField : ∃ other ∈ shape.fields, name ∈ other.names
      · obtain ⟨other, otherMember, named⟩ := isField
        rw [lenient.storeEntries_of_named otherMember named] at stores
        split at stores
        · cases stores
        · split at stores
          · cases stores
          · -- two fields that share a name are the same field
            have given : field.name = other.name ↔ name ∈ field.names := by
              constructor
              · intro same
                rwa [lenient.eq_of_named member field.name_mem_names otherMember
                  (same ▸ other.name_mem_names)]
              · intro own
                rw [lenient.eq_of_named member own otherMember named]
            rw [inductionHypothesis stores, List.mem_cons, given, or_assoc, or_left_comm]
      · have unnamed : ∀ other ∈ shape.fields, name ∉ other.names :=
          fun other otherMember named => isField ⟨other, otherMember, named⟩
        rw [storeEntries_of_unnamed unnamed] at stores
        rw [inductionHypothesis stores, or_iff_right (unnamed field member)]

theorem missing?_eq_none_iff :
    shape.missing? seen = none ↔
      ∀ field ∈ shape.fields, field.required = true → field.name ∈ seen := by
  simp [missing?]

/-- A record decodes when it does with its fields left to choice and no required one is left
out. -/
theorem ofEntries_eq_ok_iff_relaxed (lenient : shape.relaxed.Lenient) :
    shape.ofEntries entries = .ok decoded ↔
      shape.relaxed.ofEntries entries = .ok decoded ∧
        ∀ field ∈ shape.fields, field.required = true →
          ∃ entry ∈ entries, entry.1 ∈ field.names := by
  rw [lenient.ofEntries_eq_ok_iff, storeEntries_relaxed, ofEntries]
  have initial : shape.relaxed.initial = shape.initial := rfl
  rw [initial]
  cases result : shape.storeEntries entries [] shape.initial with
  | error error => simp
  | ok stored =>
      have given : ∀ field ∈ shape.fields,
          (field.name ∈ stored.1 ↔ ∃ entry ∈ entries, entry.1 ∈ field.names) := by
        intro field member
        have relaxed : field.unrequired ∈ shape.relaxed.fields := List.mem_map_of_mem member
        have stores : shape.relaxed.storeEntries entries [] shape.initial = .ok stored :=
          storeEntries_relaxed.trans result
        exact (lenient.mem_of_storeEntries relaxed stores).trans (or_iff_right (by simp))
      have complete : shape.missing? stored.1 = none ↔ ∀ field ∈ shape.fields,
          field.required = true → ∃ entry ∈ entries, entry.1 ∈ field.names := by
        rw [missing?_eq_none_iff]
        exact forall₂_congr fun field member => by rw [given field member]
      rw [← complete]
      dsimp only
      cases shape.missing? stored.1 with
      | none => simp [Prod.ext_iff]
      | some name => simp

end RecordShape

end TablePartitioning
