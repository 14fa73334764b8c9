import TablePartitioning.Proofs.Config.Paths

/-!
# Tables that settings are put into

A table keeps its fields in the order of their names, so that each name has one value, and a value
that is put at a path is what is found there.  What lies off the path stays as it was, and a table
on the path keeps its other fields.
-/

namespace TablePartitioning

namespace Json

variable {name other : String} {value : Json} {fields : List (String × Json)}

theorem lookup_field_cons {first : String} {old : Json} :
    List.lookup other ((first, old) :: fields) =
      if other = first then some old else fields.lookup other := by
  by_cases same : other = first
  · simp [same]
  · simp [List.lookup_cons, same, beq_false_of_ne same]

@[simp]
theorem lookup_insertField :
    (insertField name value fields).lookup other =
      if other = name then some value else fields.lookup other := by
  induction fields with
  | nil => simp [insertField, lookup_field_cons]
  | cons field rest inductionHypothesis =>
      obtain ⟨first, old⟩ := field
      rw [insertField]
      split
      · next same => by_cases found : other = name <;> simp [lookup_field_cons, ← same, found]
      · next different =>
          split
          · simp [lookup_field_cons]
          · rw [lookup_field_cons, lookup_field_cons, inductionHypothesis]
            by_cases found : other = first
            · have foreign : other ≠ name := fun same => different (same.symm.trans found)
              simp only [found, reduceIte, found ▸ foreign]
            · simp only [found, reduceIte]

theorem mem_insertField {field : String × Json} (member : field ∈ insertField name value fields) :
    field = (name, value) ∨ field ∈ fields := by
  induction fields with
  | nil => exact .inl (List.mem_singleton.mp member)
  | cons head rest inductionHypothesis =>
      obtain ⟨first, old⟩ := head
      rw [insertField] at member
      split at member
      · exact (List.mem_cons.mp member).imp id (List.mem_cons_of_mem _)
      · split at member
        · exact List.mem_cons.mp member
        · rcases List.mem_cons.mp member with rfl | later
          · exact .inr List.mem_cons_self
          · exact (inductionHypothesis later).imp id (List.mem_cons_of_mem _)

/-- Fields in the order of their names, each name once. -/
def Sorted (fields : List (String × Json)) : Prop :=
  fields.Pairwise fun first second => first.1 < second.1

theorem Sorted.distinct (sorted : Sorted fields) : (fields.map Prod.fst).Nodup :=
  List.pairwise_map.mpr (sorted.imp fun {first second} ordered (same : first.1 = second.1) =>
    String.lt_irrefl second.1 (same ▸ ordered))

theorem Sorted.insertField (sorted : Sorted fields) : Sorted (insertField name value fields) := by
  induction fields with
  | nil => exact List.pairwise_singleton _ _
  | cons field rest inductionHypothesis =>
      obtain ⟨first, old⟩ := field
      obtain ⟨least, sortedRest⟩ := List.pairwise_cons.mp sorted
      rw [Json.insertField]
      split
      · next same => exact List.pairwise_cons.mpr ⟨same ▸ least, sortedRest⟩
      · next different =>
          split
          · next before =>
              refine List.pairwise_cons.mpr ⟨?_, sorted⟩
              rw [List.forall_mem_cons]
              exact ⟨before, fun field later => String.lt_trans before (least field later)⟩
          · next notBefore =>
              refine List.pairwise_cons.mpr ⟨fun field member => ?_, inductionHypothesis sortedRest⟩
              rcases mem_insertField member with rfl | later
              · exact Std.lt_of_le_of_ne (String.not_lt.mp notBefore) (Ne.symm different)
              · exact least field later

/-- The tables of a value, down to a depth, have their fields in order. -/
def OrderedTo : Nat → Json → Prop
  | depth + 1, .object fields => Sorted fields ∧ ∀ field ∈ fields, OrderedTo depth field.2
  | _, _ => True

theorem OrderedTo.insertField {depth : Nat} (ordered : OrderedTo (depth + 1) (.object fields))
    (orderedValue : OrderedTo depth value) :
    OrderedTo (depth + 1) (.object (Json.insertField name value fields)) := by
  refine ⟨ordered.1.insertField, fun field member => ?_⟩
  rcases mem_insertField member with rfl | old
  · exact orderedValue
  · exact ordered.2 field old

theorem OrderedTo.empty (depth : Nat) : OrderedTo depth (.object []) := by
  cases depth with
  | zero => exact trivial
  | succ depth => exact ⟨List.Pairwise.nil, by simp⟩

theorem OrderedTo.of_noTable {depth : Nat} (noTable : ∀ fields, value ≠ .object fields) :
    OrderedTo depth value := by
  cases depth with
  | zero => exact trivial
  | succ depth =>
      cases value with
      | object fields => exact absurd rfl (noTable fields)
      | _ => exact trivial

theorem OrderedTo.fieldsOf {depth : Nat} (ordered : OrderedTo (depth + 1) value) :
    OrderedTo (depth + 1) (.object (KeyPath.fieldsOf value)) := by
  cases value with
  | object fields => exact ordered
  | _ => exact .empty _

theorem OrderedTo.lookup {depth : Nat} (ordered : OrderedTo (depth + 1) (.object fields))
    (found : fields.lookup name = some value) : OrderedTo depth value := by
  obtain ⟨before, after, split, -⟩ := List.lookup_eq_some_iff.mp found
  exact ordered.2 (name, value) (by simp [split])

end Json

namespace KeyPath

variable {name : String} {old value : Json}

theorem lookup_fieldsOf : (fieldsOf old).lookup name = old.field? name := by
  cases old <;> rfl

/-! ## Order -/

theorem orderedTo_getD {depth : Nat} {fields : List (String × Json)}
    (ordered : Json.OrderedTo (depth + 1) (.object fields)) :
    Json.OrderedTo depth ((fields.lookup name).getD .null) := by
  cases found : fields.lookup name with
  | none => exact .of_noTable fun _ => Json.noConfusion
  | some value => exact ordered.lookup found

theorem orderedTo_merge {depth : Nat} (ordered : old.OrderedTo depth) :
    (merge old value).OrderedTo depth := by
  induction depth generalizing old value with
  | zero => exact trivial
  | succ depth inductionHypothesis =>
      -- The fields are put one by one, each into what the ones before have made.
      have mergeFields_ordered (fields put : List (String × Json))
          (orderedFields : Json.OrderedTo (depth + 1) (.object fields)) :
          Json.OrderedTo (depth + 1) (.object (mergeFields fields put)) := by
        induction put generalizing fields with
        | nil => exact orderedFields
        | cons field rest later =>
            obtain ⟨name, value⟩ := field
            rw [mergeFields]
            exact later _ (orderedFields.insertField
              (inductionHypothesis (orderedTo_getD orderedFields)))
      cases value with
      | object fields =>
          rw [merge]
          exact mergeFields_ordered _ _ ordered.fieldsOf
      | _ => simp [merge, Json.OrderedTo]

theorem orderedTo_put {depth : Nat} {steps : List Step} (ordered : old.OrderedTo depth) :
    (put value steps old).OrderedTo depth := by
  induction steps generalizing depth old with
  | nil => exact orderedTo_merge ordered
  | cons step rest inductionHypothesis =>
      cases step with
      | index place => exact .of_noTable fun _ => Json.noConfusion
      | key name =>
          cases depth with
          | zero => exact trivial
          | succ depth =>
              exact ordered.fieldsOf.insertField
                (inductionHypothesis (orderedTo_getD ordered.fieldsOf))

theorem orderedTo_putAll {depth : Nat} {settings : List (String × Json)}
    (ordered : old.OrderedTo depth) : (putAll settings old).OrderedTo depth := by
  induction settings generalizing old with
  | nil => exact ordered
  | cons setting rest inductionHypothesis => exact inductionHypothesis (orderedTo_put ordered)

/-! ## What is found in a table -/

@[simp]
theorem field?_put_key {other : String} {rest : List Step} :
    (put value (.key name :: rest) old).field? other =
      if other = name then some (put value rest ((old.field? name).getD .null))
      else old.field? other := by
  simp only [put, Json.field?, Json.lookup_insertField, lookup_fieldsOf]

/-- What is found in a table, under a name. -/
def leaf? (table name : String) (settings : Json) : Option Json :=
  (settings.field? table).bind (·.field? name)

/-- A path that, where it leads to a table, goes on to a field of it. -/
def Enters (table : String) (steps : List Step) : Prop :=
  ∀ rest, steps = .key table :: rest → ∃ field deeper, rest = .key field :: deeper

/-- A path that does not go on past a field of a table. -/
def EndsAt (table name : String) (steps : List Step) : Prop :=
  ∀ deeper, steps = .key table :: .key name :: deeper → deeper = []

theorem leaf?_put {table first : String} {rest : List Step} {text : String}
    (enters : Enters table (.key first :: rest)) (ends : EndsAt table name (.key first :: rest)) :
    leaf? table name (put (.string text) (.key first :: rest) old) =
      if .key first :: rest = [.key table, .key name] then some (.string text)
      else leaf? table name old := by
  rw [leaf?, field?_put_key]
  by_cases sameTable : table = first
  · subst sameTable
    obtain ⟨field, deeper, rfl⟩ := enters rest rfl
    rw [if_pos rfl, Option.bind_some, field?_put_key]
    by_cases sameName : name = field
    · subst sameName
      obtain rfl := ends deeper rfl
      simp [put, merge]
    · have otherPath : (.key table :: .key field :: deeper) ≠ [Step.key table, .key name] := by
        simp [Ne.symm sameName]
      rw [if_neg sameName, if_neg otherPath, leaf?]
      cases old.field? table <;> rfl
  · have otherPath : .key first :: rest ≠ [.key table, .key name] := by simp [Ne.symm sameTable]
    rw [if_neg sameTable, if_neg otherPath, leaf?]

/-! ## All settings -/

variable {settings : List (String × Json)} {table : String}

@[simp]
theorem putAll_nil : putAll [] old = old := rfl

@[simp]
theorem putAll_cons {key : String} :
    putAll ((key, value) :: settings) old = putAll settings (put value (ofText key) old) := rfl

theorem putAll_object {fields : List (String × Json)} :
    ∃ all, putAll settings (.object fields) = .object all := by
  induction settings generalizing fields with
  | nil => exact ⟨fields, rfl⟩
  | cons setting rest inductionHypothesis =>
      obtain ⟨key, value⟩ := setting
      obtain ⟨name, later, path⟩ := ofText_eq_key_cons key
      rw [putAll_cons, path]
      exact inductionHypothesis

/-- A table that no setting goes to stays as it is. -/
theorem field?_putAll_of_untouched
    (untouched : ∀ setting ∈ settings, ∀ later, ofText setting.1 ≠ .key table :: later) :
    (putAll settings old).field? table = old.field? table := by
  induction settings generalizing old with
  | nil => rfl
  | cons setting rest inductionHypothesis =>
      obtain ⟨key, value⟩ := setting
      rw [List.forall_mem_cons] at untouched
      obtain ⟨first, later, path⟩ := ofText_eq_key_cons key
      have foreign : table ≠ first := fun same => untouched.1 later (same ▸ path)
      rw [putAll_cons, inductionHypothesis untouched.2, path, field?_put_key, if_neg foreign]

/-- A table that settings go into is one, whatever was there. -/
theorem field?_putAll_of_touched
    (enters : ∀ setting ∈ settings, Enters table (ofText setting.1))
    (touched : (∃ fields, old.field? table = some (.object fields)) ∨
      ∃ setting ∈ settings, ∃ later, ofText setting.1 = .key table :: later) :
    ∃ fields, (putAll settings old).field? table = some (.object fields) := by
  induction settings generalizing old with
  | nil => simpa using touched
  | cons setting rest inductionHypothesis =>
      obtain ⟨key, value⟩ := setting
      rw [List.forall_mem_cons] at enters
      refine inductionHypothesis enters.2 ?_
      obtain ⟨first, later, path⟩ := ofText_eq_key_cons key
      simp only [path, field?_put_key]
      by_cases own : table = first
      · obtain ⟨field, deeper, rfl⟩ := enters.1 later (own ▸ path)
        exact .inl ⟨_, if_pos own⟩
      · simp only [if_neg own]
        refine touched.imp id ?_
        rintro ⟨toucher, member, toucherLater, toucherPath⟩
        rcases List.mem_cons.mp member with rfl | among
        · rw [path] at toucherPath
          cases toucherPath
          exact absurd rfl own
        · exact ⟨toucher, among, toucherLater, toucherPath⟩

/-- Under the name of a field stands the setting for it, else what was there before. -/
theorem leaf?_putAll (isTable : IsKey table) (isName : IsKey name)
    (distinct : (settings.map Prod.fst).Nodup)
    (texts : ∀ setting ∈ settings, ∃ text, setting.2 = .string text)
    (enters : ∀ setting ∈ settings, Enters table (ofText setting.1))
    (ends : ∀ setting ∈ settings, EndsAt table name (ofText setting.1)) :
    leaf? table name (putAll settings old) =
      (settings.lookup (table ++ "." ++ name)).or (leaf? table name old) := by
  induction settings generalizing old with
  | nil => rfl
  | cons setting rest inductionHypothesis =>
      obtain ⟨key, value⟩ := setting
      rw [List.forall_mem_cons] at texts enters ends
      obtain ⟨text, rfl : value = .string text⟩ := texts.1
      rw [List.map_cons, List.nodup_cons] at distinct
      obtain ⟨first, deeper, path⟩ := ofText_eq_key_cons key
      have own : .key first :: deeper = [.key table, .key name] ↔ key = table ++ "." ++ name := by
        rw [← path, ofText_eq_pair_iff isTable isName]
      have entersKey : Enters table (.key first :: deeper) := path ▸ enters.1
      have endsKey : EndsAt table name (.key first :: deeper) := path ▸ ends.1
      rw [putAll_cons, inductionHypothesis distinct.2 texts.2 enters.2 ends.2, path,
        leaf?_put entersKey endsKey, Json.lookup_field_cons]
      by_cases same : key = table ++ "." ++ name
      · -- No later setting has the same key, so that this one stays.
        have absent : rest.lookup key = none := by
          refine List.lookup_eq_none_iff.mpr fun setting member => ?_
          have different : key ≠ setting.1 := fun equal =>
            distinct.1 (List.mem_map.mpr ⟨setting, member, equal.symm⟩)
          simpa using different
        rw [if_pos (own.mpr same), if_pos same.symm, ← same, absent]
        rfl
      · rw [if_neg (mt own.mp same), if_neg (Ne.symm same)]

end KeyPath

end TablePartitioning
