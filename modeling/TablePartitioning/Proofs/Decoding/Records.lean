import Mathlib.Data.List.Pairwise
import TablePartitioning.Decoding.Record

/-!
# Records whose fields may be left out

A record that has a value before any field is read, and none of whose fields is required, decodes
from the objects that fit it: each value is accepted by the field that it is named for, and no
field is given twice, under whatever names it is read.  Then each field is what was read from its
value, and a field without a value stays as it was.  An array is read as an object with the names
of the fields in the order of their declaration.
-/

namespace TablePartitioning

variable {Value Record α : Type}

/-- What is taken where a value is read, and where there is none. -/
def Takes (read : Value → Except DecodeError α) (initial : α) (given : Option Value) (taken : α) :
    Prop :=
  match given with
  | some value => read value = .ok taken
  | none => taken = initial

namespace RecordField

/-- The names that a field is read under. -/
def names (field : RecordField Value Record) : List String := field.name :: field.aliases

theorem answersTo_iff {field : RecordField Value Record} {name : String} :
    field.answersTo name = true ↔ name ∈ field.names := by
  simp [answersTo, names]

theorem name_mem_names (field : RecordField Value Record) : field.name ∈ field.names :=
  List.mem_cons_self

/-- A field takes a value, whatever the other fields are. -/
def Accepts (field : RecordField Value Record) (value : Value) : Prop :=
  ∀ record, ∃ stored, field.store value record = .ok stored

end RecordField

namespace RecordShape

/-- A record that may be left empty: no field is required, no name is that of two fields, and what
a field takes does not depend on the others. -/
structure Lenient (shape : RecordShape Value Record) : Prop where
  optional : ∀ field ∈ shape.fields, field.required = false
  apart : shape.fields.Pairwise fun first second => ∀ name ∈ first.names, name ∉ second.names
  uniform : ∀ field ∈ shape.fields, ∀ value record stored,
    field.store value record = .ok stored → field.Accepts value
  shorter : shape.allowsShorter = true

/-- The field with some names is what a reading makes of its value, and no other field changes
it. -/
structure Part (shape : RecordShape Value Record) (names : List String)
    (read : Value → Except DecodeError α) (get : Record → α) : Prop where
  member : ∃ field ∈ shape.fields, field.names = names
  sets : ∀ field ∈ shape.fields, field.names = names → ∀ value record stored,
    field.store value record = .ok stored → read value = .ok (get stored)
  keeps : ∀ field ∈ shape.fields, field.names ≠ names → ∀ value record stored,
    field.store value record = .ok stored → get stored = get record

/-- No field is given under two names, once from above and once from below. -/
def SpelledAlike (shape : RecordShape Value Record) (upper lower : String → Option Value) : Prop :=
  ∀ field ∈ shape.fields, ∀ first ∈ field.names, ∀ second ∈ field.names,
    (upper first).isSome → (lower second).isSome → first = second

/-- What is given under names fits the fields: each accepts its value, and none has two. -/
structure Fits (shape : RecordShape Value Record) (given : String → Option Value) : Prop where
  accepted : ∀ field ∈ shape.fields, ∀ name ∈ field.names, ∀ value, given name = some value →
    field.Accepts value
  once : shape.SpelledAlike given given

variable {shape : RecordShape Value Record} {field : RecordField Value Record} {name : String}
  {value : Value} {rest entries : List (String × Value)} {seen : List String} {record : Record}

/-! ## Fields by their names -/

theorem Lenient.find?_eq_some_iff (lenient : shape.Lenient) :
    shape.fields.find? (·.answersTo name) = some field ↔
      field ∈ shape.fields ∧ name ∈ field.names := by
  constructor
  · intro found
    exact ⟨List.mem_of_find?_eq_some found,
      RecordField.answersTo_iff.mp (List.find?_eq_some_iff_append.mp found).1⟩
  · rintro ⟨member, named⟩
    obtain ⟨before, after, split⟩ := List.append_of_mem member
    refine List.find?_eq_some_iff_append.mpr
      ⟨RecordField.answersTo_iff.mpr named, before, after, split, fun other earlier => ?_⟩
    have apart := lenient.apart
    rw [split, List.pairwise_append] at apart
    rw [Bool.not_eq_true', ← Bool.not_eq_true, RecordField.answersTo_iff]
    exact fun otherNamed => apart.2.2 other earlier field List.mem_cons_self name otherNamed named

/-- No name is that of two fields. -/
theorem Lenient.eq_of_named (lenient : shape.Lenient) {first second : RecordField Value Record}
    (firstMember : first ∈ shape.fields) (firstNamed : name ∈ first.names)
    (secondMember : second ∈ shape.fields) (secondNamed : name ∈ second.names) :
    first = second := by
  have found := lenient.find?_eq_some_iff.mpr ⟨firstMember, firstNamed⟩
  rw [lenient.find?_eq_some_iff.mpr ⟨secondMember, secondNamed⟩, Option.some.injEq] at found
  exact found.symm

theorem storeEntries_of_unnamed (unnamed : ∀ field ∈ shape.fields, name ∉ field.names) :
    shape.storeEntries ((name, value) :: rest) seen record =
      shape.storeEntries rest seen record := by
  have absent : shape.fields.find? (·.answersTo name) = none := by
    rw [List.find?_eq_none]
    exact fun field member answers => unnamed field member (RecordField.answersTo_iff.mp answers)
  rw [storeEntries, absent]

theorem Lenient.storeEntries_of_named (lenient : shape.Lenient) (member : field ∈ shape.fields)
    (named : name ∈ field.names) :
    shape.storeEntries ((name, value) :: rest) seen record =
      if field.name ∈ seen then .error (.duplicateField field.name)
      else
        match field.store value record with
        | .error error => .error error
        | .ok record => shape.storeEntries rest (field.name :: seen) record := by
  rw [storeEntries, lenient.find?_eq_some_iff.mpr ⟨member, named⟩]
  dsimp only
  by_cases already : field.name ∈ seen
  · simp [already]
  · cases field.store value record <;> simp [already]

/-! ## Fields that store what is read -/

theorem forall_map_eq_ok {β : Type} {result : Except DecodeError α} {set : α → β} {P : β → Prop} :
    (∀ stored, result.map set = .ok stored → P stored) ↔
      ∀ taken, result = .ok taken → P (set taken) := by
  cases result <;> simp [Except.map]

theorem exists_map_eq_ok {β : Type} {result : Except DecodeError α} {taken : α} {set : α → β}
    (reads : result = .ok taken) : ∃ stored, result.map set = .ok stored :=
  ⟨set taken, by rw [reads]; rfl⟩

/-- A field that stores what is read accepts what can be read. -/
theorem accepts_iff_of_store {read : Value → Except DecodeError α} {set : Record → α → Record}
    (record : Record)
    (form : ∀ value record, field.store value record = (read value).map (set record)) :
    field.Accepts value ↔ ∃ taken, read value = .ok taken := by
  simp only [RecordField.Accepts, form]
  cases read value with
  | error error => exact ⟨fun accepts => by simpa [Except.map] using accepts record, by simp⟩
  | ok taken => exact ⟨fun _ => ⟨taken, rfl⟩, fun _ record => ⟨set record taken, rfl⟩⟩

theorem part_of_stores {names : List String} {read : Value → Except DecodeError α}
    {get : Record → α} (member : names ∈ shape.fields.map (·.names))
    (stores : ∀ field ∈ shape.fields, ∀ value record stored,
      field.store value record = .ok stored →
        if field.names = names then read value = .ok (get stored) else get stored = get record) :
    shape.Part names read get where
  member := List.mem_map.mp member
  sets field fieldMember own value record stored succeeds := by
    simpa only [own, reduceIte] using stores field fieldMember value record stored succeeds
  keeps field fieldMember foreign value record stored succeeds := by
    simpa only [foreign, reduceIte] using stores field fieldMember value record stored succeeds

/-! ## Which objects decode -/

/-- Entries that can be stored after some fields have been stored. -/
structure Storable (shape : RecordShape Value Record) (seen : List String)
    (entries : List (String × Value)) : Prop where
  accepted : ∀ entry ∈ entries, ∀ field ∈ shape.fields, entry.1 ∈ field.names →
    field.Accepts entry.2
  unseen : ∀ entry ∈ entries, ∀ field ∈ shape.fields, entry.1 ∈ field.names → field.name ∉ seen
  once : entries.Pairwise fun first second =>
    ∀ field ∈ shape.fields, first.1 ∈ field.names → second.1 ∉ field.names

theorem storable_cons_of_unnamed (unnamed : ∀ field ∈ shape.fields, name ∉ field.names) :
    shape.Storable seen ((name, value) :: rest) ↔ shape.Storable seen rest := by
  constructor
  · rintro ⟨accepted, unseen, once⟩
    exact ⟨fun entry later => accepted entry (List.mem_cons_of_mem _ later),
      fun entry later => unseen entry (List.mem_cons_of_mem _ later), once.of_cons⟩
  · rintro ⟨accepted, unseen, once⟩
    refine ⟨?_, ?_, List.pairwise_cons.mpr ⟨?_, once⟩⟩
    · rw [List.forall_mem_cons]
      exact ⟨fun field member named => absurd named (unnamed field member), accepted⟩
    · rw [List.forall_mem_cons]
      exact ⟨fun field member named => absurd named (unnamed field member), unseen⟩
    · exact fun entry _ field member named => absurd named (unnamed field member)

theorem Lenient.storable_cons_of_named (lenient : shape.Lenient) (member : field ∈ shape.fields)
    (named : name ∈ field.names) :
    shape.Storable seen ((name, value) :: rest) ↔
      field.name ∉ seen ∧ field.Accepts value ∧ shape.Storable (field.name :: seen) rest := by
  have onlyField : ∀ other ∈ shape.fields, name ∈ other.names → other = field :=
    fun other otherMember otherNamed =>
      lenient.eq_of_named otherMember otherNamed member named
  constructor
  · rintro ⟨accepted, unseen, once⟩
    rw [List.pairwise_cons] at once
    refine ⟨unseen _ List.mem_cons_self field member named,
      accepted _ List.mem_cons_self field member named,
      fun entry later => accepted entry (List.mem_cons_of_mem _ later), ?_, once.2⟩
    intro entry later other otherMember otherNamed seenNow
    rcases List.mem_cons.mp seenNow with same | seenBefore
    · -- Fields of one name are one field, which `entry` may not be given for again.
      have sameField : other = field :=
        lenient.eq_of_named otherMember other.name_mem_names member
          (same ▸ field.name_mem_names)
      exact once.1 entry later field member named (sameField ▸ otherNamed)
    · exact unseen entry (List.mem_cons_of_mem _ later) other otherMember otherNamed seenBefore
  · rintro ⟨fresh, accepts, accepted, unseen, once⟩
    refine ⟨?_, ?_, List.pairwise_cons.mpr ⟨?_, once⟩⟩
    · rw [List.forall_mem_cons]
      exact ⟨fun other otherMember otherNamed =>
        onlyField other otherMember otherNamed ▸ accepts, accepted⟩
    · rw [List.forall_mem_cons]
      exact ⟨fun other otherMember otherNamed =>
          onlyField other otherMember otherNamed ▸ fresh,
        fun entry later other otherMember otherNamed seenBefore =>
          unseen entry later other otherMember otherNamed (List.mem_cons_of_mem _ seenBefore)⟩
    · intro entry later other otherMember otherNamed laterNamed
      rw [onlyField other otherMember otherNamed] at laterNamed
      exact unseen entry later field member laterNamed List.mem_cons_self

theorem Lenient.storeEntries_ok_iff (lenient : shape.Lenient) :
    (∃ stored, shape.storeEntries entries seen record = .ok stored) ↔
      shape.Storable seen entries := by
  induction entries generalizing seen record with
  | nil =>
      exact ⟨fun _ => ⟨by simp, by simp, List.Pairwise.nil⟩, fun _ => ⟨_, rfl⟩⟩
  | cons entry rest inductionHypothesis =>
      obtain ⟨name, value⟩ := entry
      by_cases isField : ∃ field ∈ shape.fields, name ∈ field.names
      · obtain ⟨field, member, named⟩ := isField
        rw [lenient.storable_cons_of_named member named,
          lenient.storeEntries_of_named member named]
        by_cases already : field.name ∈ seen
        · simp [already]
        · cases result : field.store value record with
          | error error =>
              simp only [already, reduceIte, reduceCtorEq, exists_false, false_iff]
              rintro ⟨-, accepts, -⟩
              obtain ⟨stored, succeeds⟩ := accepts record
              rw [result] at succeeds
              cases succeeds
          | ok next =>
              have accepts := lenient.uniform field member value record next result
              simp only [already, not_false_eq_true, reduceIte, inductionHypothesis, true_and,
                accepts]
      · have unnamed : ∀ field ∈ shape.fields, name ∉ field.names :=
          fun field member named => isField ⟨field, member, named⟩
        rw [storeEntries_of_unnamed unnamed, storable_cons_of_unnamed unnamed]
        exact inductionHypothesis

theorem Lenient.missing?_eq_none (lenient : shape.Lenient) : shape.missing? seen = none := by
  rw [missing?, Option.map_eq_none_iff, List.find?_eq_none]
  intro field member
  simp [lenient.optional field member]

theorem Lenient.ofEntries_eq_ok_iff (lenient : shape.Lenient) {decoded : Record} :
    shape.ofEntries entries = .ok decoded ↔
      ∃ seen, shape.storeEntries entries [] shape.initial = .ok (seen, decoded) := by
  rw [ofEntries]
  cases shape.storeEntries entries [] shape.initial with
  | error error => simp
  | ok stored => simp [lenient.missing?_eq_none, Prod.ext_iff]

/-! ## What decodes from an object -/

/-- Entries that are stored leave a part as it was when none is named for it, and otherwise the
part is what is read from the value of the one that is. -/
theorem Part.storeEntries (lenient : shape.Lenient) {names : List String}
    {read : Value → Except DecodeError α} {get : Record → α} (part : shape.Part names read get)
    {stored : List String × Record}
    (stores : shape.storeEntries entries seen record = .ok stored) :
    (∀ entry ∈ entries, entry.1 ∈ names → read entry.2 = .ok (get stored.2)) ∧
      ((∀ entry ∈ entries, entry.1 ∉ names) → get stored.2 = get record) := by
  induction entries generalizing seen record with
  | nil =>
      cases stores
      exact ⟨by simp, fun _ => rfl⟩
  | cons entry rest inductionHypothesis =>
      obtain ⟨name, value⟩ := entry
      by_cases isField : ∃ field ∈ shape.fields, name ∈ field.names
      · obtain ⟨field, member, named⟩ := isField
        rw [lenient.storeEntries_of_named member named] at stores
        split at stores
        · cases stores
        · split at stores
          · cases stores
          · next next result =>
              obtain ⟨sets, keeps⟩ := inductionHypothesis stores
              have storable := lenient.storeEntries_ok_iff.mp ⟨_, stores⟩
              rw [List.forall_mem_cons, List.forall_mem_cons]
              by_cases own : field.names = names
              · -- The field is stored, so that no later entry is named for it.
                have untouched := keeps fun entry later laterNamed =>
                  storable.unseen entry later field member (own ▸ laterNamed) List.mem_cons_self
                have reads := part.sets field member own value record next result
                exact ⟨⟨fun _ => untouched ▸ reads, sets⟩,
                  fun unnamed => absurd (own ▸ named) unnamed.1⟩
              · have kept := part.keeps field member own value record next result
                have foreign : name ∉ names := fun nameOwn => by
                  obtain ⟨ownField, ownMember, ownNames⟩ := part.member
                  rw [lenient.eq_of_named member named ownMember (ownNames ▸ nameOwn)] at own
                  exact own ownNames
                exact ⟨⟨fun nameOwn => absurd nameOwn foreign, sets⟩,
                  fun unnamed => (keeps unnamed.2).trans kept⟩
      · have unnamed : ∀ field ∈ shape.fields, name ∉ field.names :=
          fun field member named => isField ⟨field, member, named⟩
        rw [storeEntries_of_unnamed unnamed] at stores
        obtain ⟨sets, keeps⟩ := inductionHypothesis stores
        have foreign : name ∉ names := by
          obtain ⟨ownField, ownMember, ownNames⟩ := part.member
          exact ownNames ▸ unnamed ownField ownMember
        rw [List.forall_mem_cons, List.forall_mem_cons]
        exact ⟨⟨fun nameOwn => absurd nameOwn foreign, sets⟩, fun unnamed => keeps unnamed.2⟩

/-! ## Objects as values under names -/

theorem mem_of_lookup {entries : List (String × Value)} (found : entries.lookup name = some value) :
    (name, value) ∈ entries := by
  obtain ⟨before, after, split, -⟩ := List.lookup_eq_some_iff.mp found
  rw [split]
  exact List.mem_append_right _ List.mem_cons_self

theorem lookup_of_mem {entries : List (String × Value)} (distinct : (entries.map Prod.fst).Nodup)
    (member : (name, value) ∈ entries) : entries.lookup name = some value := by
  obtain ⟨before, after, split⟩ := List.append_of_mem member
  refine List.lookup_eq_some_iff.mpr ⟨before, after, split, fun entry earlier => ?_⟩
  rw [split, List.map_append, List.nodup_append] at distinct
  have different := distinct.2.2 entry.1 (List.mem_map_of_mem earlier) name (by simp)
  simpa using different.symm

theorem storable_iff_fits (distinct : (entries.map Prod.fst).Nodup) :
    shape.Storable [] entries ↔ shape.Fits (List.lookup · entries) := by
  constructor
  · rintro ⟨accepted, -, once⟩
    refine ⟨fun field member name named value found =>
      accepted (name, value) (mem_of_lookup found) field member named, ?_⟩
    intro field member first firstNamed second secondNamed firstGiven secondGiven
    obtain ⟨firstValue, firstFound⟩ := Option.isSome_iff_exists.mp firstGiven
    obtain ⟨secondValue, secondFound⟩ := Option.isSome_iff_exists.mp secondGiven
    by_contra different
    have symmetric : Std.Symm fun first second : String × Value =>
        ∀ field ∈ shape.fields, first.1 ∈ field.names → second.1 ∉ field.names :=
      ⟨fun _ _ apart field member named other => apart field member other named⟩
    exact once.forall (mem_of_lookup firstFound) (mem_of_lookup secondFound)
      (fun same => different (congrArg Prod.fst same)) field member firstNamed secondNamed
  · rintro ⟨accepted, once⟩
    have found : ∀ entry ∈ entries, entries.lookup entry.1 = some entry.2 :=
      fun entry member => lookup_of_mem distinct member
    refine ⟨fun entry member field fieldMember named =>
      accepted field fieldMember entry.1 named entry.2 (found entry member), by simp, ?_⟩
    refine (List.pairwise_map.mp distinct).imp_of_mem fun {first second} firstMember secondMember
      different field member firstNamed secondNamed => different ?_
    exact once field member first.1 firstNamed second.1 secondNamed
      (Option.isSome_of_eq_some (found first firstMember))
      (Option.isSome_of_eq_some (found second secondMember))

/-- An object with distinct names decodes exactly when its values fit the fields. -/
theorem Lenient.ofEntries_ok_iff (lenient : shape.Lenient)
    (distinct : (entries.map Prod.fst).Nodup) :
    (∃ decoded, shape.ofEntries entries = .ok decoded) ↔ shape.Fits (List.lookup · entries) := by
  rw [← storable_iff_fits distinct, ← lenient.storeEntries_ok_iff]
  simp only [lenient.ofEntries_eq_ok_iff]
  exact ⟨fun ⟨decoded, seen, stores⟩ => ⟨(seen, decoded), stores⟩,
    fun ⟨(seen, decoded), stores⟩ => ⟨decoded, seen, stores⟩⟩

/-- A part of what an object decodes to is read from the value of its field. -/
theorem Part.ofEntries (lenient : shape.Lenient) {names : List String}
    {read : Value → Except DecodeError α} {get : Record → α} (part : shape.Part names read get)
    {decoded : Record} (decodes : shape.ofEntries entries = .ok decoded) :
    Takes read (get shape.initial) (names.findSome? (List.lookup · entries)) (get decoded) := by
  obtain ⟨seen, stores⟩ := lenient.ofEntries_eq_ok_iff.mp decodes
  obtain ⟨sets, keeps⟩ := part.storeEntries lenient stores
  cases found : names.findSome? (List.lookup · entries) with
  | some value =>
      obtain ⟨name, named, foundName⟩ := List.exists_of_findSome?_eq_some found
      exact sets (name, value) (mem_of_lookup foundName) named
  | none =>
      refine keeps fun entry member named => ?_
      have absent := List.findSome?_eq_none_iff.mp found entry.1 named
      have different := List.lookup_eq_none_iff.mp absent entry member
      simp at different

/-! ## Arrays as objects -/

/-- The items of an array with the names of the fields. -/
def namedItems (shape : RecordShape Value Record) (values : List Value) : List (String × Value) :=
  (shape.fields.map (·.name)).zip values

theorem map_fst_zip_sublist (names : List String) (values : List Value) :
    ((names.zip values).map Prod.fst).Sublist names := by
  induction names generalizing values with
  | nil => exact List.Sublist.slnil
  | cons name names inductionHypothesis =>
      cases values with
      | nil => exact List.nil_sublist _
      | cons value values => exact (inductionHypothesis values).cons_cons name

theorem Lenient.namedItems_distinct (lenient : shape.Lenient) (values : List Value) :
    ((shape.namedItems values).map Prod.fst).Nodup := by
  have distinct : (shape.fields.map (·.name)).Nodup := by
    refine List.pairwise_map.mpr (lenient.apart.imp fun {first second} apart same => ?_)
    exact apart first.name first.name_mem_names (same ▸ second.name_mem_names)
  exact (map_fst_zip_sublist _ values).nodup distinct

/-- Storing items one after the other is storing them under the names of the fields that are left,
when only fields that come before have been stored. -/
theorem Lenient.storeItems_eq (lenient : shape.Lenient)
    {passed fields : List (RecordField Value Record)} (split : shape.fields = passed ++ fields)
    (earlier : ∀ name ∈ seen, ∃ field ∈ passed, field.name = name) (values : List Value) :
    storeItems fields values record =
      (shape.storeEntries ((fields.map (·.name)).zip values) seen record).map Prod.snd := by
  induction fields generalizing passed seen record values with
  | nil => simp [storeItems, storeEntries, Except.map]
  | cons field fields inductionHypothesis =>
      cases values with
      | nil => simp [storeItems, storeEntries, Except.map]
      | cons value values =>
          have member : field ∈ shape.fields := by simp [split]
          have fresh : field.name ∉ seen := by
            intro already
            obtain ⟨other, before, sameName⟩ := earlier field.name already
            have apart := lenient.apart
            rw [split, List.pairwise_append] at apart
            exact apart.2.2 other before field List.mem_cons_self field.name
              (sameName ▸ other.name_mem_names) field.name_mem_names
          rw [List.map_cons, List.zip_cons_cons,
            lenient.storeEntries_of_named member field.name_mem_names, if_neg fresh, storeItems]
          cases field.store value record with
          | error error => rfl
          | ok next =>
              have splitLater : shape.fields = (passed ++ [field]) ++ fields := by simp [split]
              refine inductionHypothesis splitLater (fun name named => ?_) values
              rcases List.mem_cons.mp named with rfl | before
              · exact ⟨field, by simp, rfl⟩
              · obtain ⟨other, otherBefore, sameName⟩ := earlier name before
                exact ⟨other, List.mem_append_left _ otherBefore, sameName⟩

/-- An array that is not too long is read as the object of its items. -/
theorem Lenient.ofItems_eq_ofEntries (lenient : shape.Lenient) (source : Source Value)
    {values : List Value}
    (fitting : source.refusesLonger = true → values.length ≤ shape.fields.length) :
    shape.ofItems source values = shape.ofEntries (shape.namedItems values) := by
  have items : storeItems shape.fields values shape.initial =
      (shape.storeEntries (shape.namedItems values) [] shape.initial).map Prod.snd :=
    lenient.storeItems_eq (List.nil_append _).symm (by simp) values
  have notLonger :
      (decide (shape.fields.length < values.length) && source.refusesLonger) = false := by
    cases refuses : source.refusesLonger with
    | false => simp
    | true => simpa using fitting refuses
  rw [ofItems, ofEntries, items, lenient.shorter, notLonger]
  cases shape.storeEntries (shape.namedItems values) [] shape.initial with
  | error error => rfl
  | ok stored => simp [Except.map, lenient.missing?_eq_none]

/-! ## Values of either kind -/

/-- The entries of an object, or of an array as an object; anything else has none. -/
def entriesOf (shape : RecordShape Value Record) : Contents Value → List (String × Value)
  | .fields entries => entries
  | .items values => shape.namedItems values
  | .single => []

/-- What a value gives under a name. -/
def given (shape : RecordShape Value Record) (source : Source Value) (value : Value)
    (name : String) : Option Value :=
  (shape.entriesOf (source.contents value)).lookup name

/-- A value that a record can be read from, with no name twice. -/
structure Readable (shape : RecordShape Value Record) (source : Source Value) (value : Value) :
    Prop where
  composite : source.contents value ≠ .single
  distinct : ((shape.entriesOf (source.contents value)).map Prod.fst).Nodup
  fitting : source.refusesLonger = true → ∀ values, source.contents value = .items values →
    values.length ≤ shape.fields.length

theorem Readable.decode_eq_ofEntries {source : Source Value} (lenient : shape.Lenient)
    (readable : shape.Readable source value) :
    shape.decode source value = shape.ofEntries (shape.entriesOf (source.contents value)) := by
  rw [decode]
  cases contents : source.contents value with
  | fields entries => rfl
  | items values =>
      exact lenient.ofItems_eq_ofEntries source fun refuses =>
        readable.fitting refuses values contents
  | single => exact absurd contents readable.composite

/-- A record decodes exactly when what is given under names fits its fields. -/
theorem Readable.decode_ok_iff {source : Source Value} (lenient : shape.Lenient)
    (readable : shape.Readable source value) :
    (∃ decoded, shape.decode source value = .ok decoded) ↔
      shape.Fits (shape.given source value) := by
  rw [readable.decode_eq_ofEntries lenient, lenient.ofEntries_ok_iff readable.distinct]
  rfl

/-- A part of a record is what is read from the value given for it. -/
theorem Part.decode {source : Source Value} (lenient : shape.Lenient)
    (readable : shape.Readable source value) {names : List String}
    {read : Value → Except DecodeError α} {get : Record → α} (part : shape.Part names read get)
    {decoded : Record} (decodes : shape.decode source value = .ok decoded) :
    Takes read (get shape.initial) (names.findSome? (shape.given source value)) (get decoded) := by
  rw [readable.decode_eq_ofEntries lenient] at decodes
  exact part.ofEntries lenient decodes

/-- A field that stores what is read, and that the others leave alone, is taken from what is given
for it. -/
theorem takes_of_stores {source : Source Value} (lenient : shape.Lenient)
    (readable : shape.Readable source value) {decoded : Record}
    (decodes : shape.decode source value = .ok decoded) {given : List String → Option Value}
    (agree : ∀ names ∈ shape.fields.map (·.names),
      names.findSome? (shape.given source value) = given names)
    {names : List String} {read : Value → Except DecodeError α} {get : Record → α}
    (member : names ∈ shape.fields.map (·.names))
    (stores : ∀ field ∈ shape.fields, ∀ value record stored,
      field.store value record = .ok stored →
        if field.names = names then read value = .ok (get stored) else get stored = get record) :
    Takes read (get shape.initial) (given names) (get decoded) :=
  agree names member ▸ (part_of_stores member stores).decode lenient readable decodes

end RecordShape

end TablePartitioning
