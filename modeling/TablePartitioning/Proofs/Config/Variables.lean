import Mathlib.Data.List.Induction
import TablePartitioning.Config.Environment
import TablePartitioning.Proofs.Config.Tables

/-!
# Settings from variables

The settings that variables hold have each key once, with the value of the last variable that
holds it.
-/

namespace TablePartitioning.Environment

variable {held : List (String × Json)} {key other : String} {value : Json}
  {environment : Environment} {name text : String}

/-- The value of a setting, that of the last variable that holds it. -/
def value? (environment : Environment) (key : String) : Option String :=
  (environment.reverse.find? fun entry => settingKey? entry.1 = some key).map Prod.snd

/-! ## One setting more -/

theorem lookup_store :
    (store held key value).lookup other =
      if other = key then some value else held.lookup other := by
  induction held with
  | nil => simp [store, Json.lookup_field_cons]
  | cons setting rest inductionHypothesis =>
      obtain ⟨first, old⟩ := setting
      rw [store]
      split
      · next same => by_cases found : other = key <;> simp [Json.lookup_field_cons, same, found]
      · next different =>
          rw [Json.lookup_field_cons, Json.lookup_field_cons, inductionHypothesis]
          by_cases found : other = first
          · have foreign : other ≠ key := fun same => different (found.symm.trans same)
            rw [if_pos found, if_pos found, if_neg foreign]
          · rw [if_neg found, if_neg found]

theorem mem_store {setting : String × Json} (member : setting ∈ store held key value) :
    setting = (key, value) ∨ setting ∈ held := by
  induction held with
  | nil => exact .inl (List.mem_singleton.mp member)
  | cons head rest inductionHypothesis =>
      obtain ⟨first, old⟩ := head
      rw [store] at member
      split at member
      · exact (List.mem_cons.mp member).imp id (List.mem_cons_of_mem _)
      · rcases List.mem_cons.mp member with rfl | later
        · exact .inr List.mem_cons_self
        · exact (inductionHypothesis later).imp id (List.mem_cons_of_mem _)

theorem distinct_store (distinct : (held.map Prod.fst).Nodup) :
    ((store held key value).map Prod.fst).Nodup := by
  induction held with
  | nil => simp [store]
  | cons setting rest inductionHypothesis =>
      obtain ⟨first, old⟩ := setting
      rw [List.map_cons, List.nodup_cons] at distinct
      rw [store]
      split
      · next same => exact List.nodup_cons.mpr ⟨same ▸ distinct.1, distinct.2⟩
      · next different =>
          refine List.nodup_cons.mpr ⟨fun member => ?_, inductionHypothesis distinct.2⟩
          obtain ⟨other, stored, same⟩ := List.mem_map.mp member
          rcases mem_store stored with rfl | old
          · exact different same.symm
          · exact distinct.1 (List.mem_map.mpr ⟨other, old, same⟩)

/-! ## All variables -/

/-- A variable after others stores its setting, if it holds one. -/
theorem settings_concat :
    settings (environment ++ [(name, text)]) =
      match settingKey? name with
      | some key => store (settings environment) key (.string text)
      | none => settings environment := by
  rw [settings, List.foldl_append]
  rfl

theorem value?_concat :
    value? (environment ++ [(name, text)]) key =
      if settingKey? name = some key then some text else value? environment key := by
  by_cases holds : settingKey? name = some key <;> simp [value?, holds]

theorem settings_distinct (environment : Environment) :
    ((settings environment).map Prod.fst).Nodup := by
  induction environment using List.reverseRecOn with
  | nil => exact List.nodup_nil
  | append_singleton earlier entry inductionHypothesis =>
      rw [settings_concat]
      split
      · exact distinct_store inductionHypothesis
      · exact inductionHypothesis

theorem mem_settings {setting : String × Json} (member : setting ∈ settings environment) :
    ∃ entry ∈ environment, settingKey? entry.1 = some setting.1 ∧ setting.2 = .string entry.2 := by
  induction environment using List.reverseRecOn with
  | nil => cases member
  | append_singleton earlier entry inductionHypothesis =>
      have among (old : setting ∈ settings earlier) : ∃ entry' ∈ earlier ++ [entry],
          settingKey? entry'.1 = some setting.1 ∧ setting.2 = .string entry'.2 := by
        obtain ⟨holder, before, holds⟩ := inductionHypothesis old
        exact ⟨holder, List.mem_append_left _ before, holds⟩
      rw [settings_concat] at member
      split at member
      · next key holds =>
          rcases mem_store member with rfl | old
          · exact ⟨entry, by simp, holds, rfl⟩
          · exact among old
      · exact among member

theorem lookup_settings :
    (settings environment).lookup key = (environment.value? key).map Json.string := by
  induction environment using List.reverseRecOn with
  | nil => rfl
  | append_singleton earlier entry inductionHypothesis =>
      rw [settings_concat, value?_concat]
      cases holds : settingKey? entry.1 with
      | none => simp [inductionHypothesis]
      | some held =>
          simp only [Option.some.injEq, lookup_store, inductionHypothesis, eq_comm]
          split <;> rfl

theorem mem_of_value? (found : environment.value? key = some text) :
    ∃ entry ∈ environment, settingKey? entry.1 = some key ∧ entry.2 = text := by
  obtain ⟨entry, last, rfl⟩ := Option.map_eq_some_iff.mp found
  exact ⟨entry, List.mem_reverse.mp (List.mem_of_find?_eq_some last),
    by simpa using List.find?_some last, rfl⟩

end TablePartitioning.Environment
