import TablePartitioning.Proofs.Decoding.Objects
import TablePartitioning.Proofs.Decoding.Strict
import TablePartitioning.Proofs.Json.Reading

/-!
# Records that are written and read

A record is read again from the text that is written for it when its fields are written in the
order of their declaration, each as its reading takes it back.  The text is read with the fields in
the order of their names; that makes no difference to a record that is settled by what an object
gives for its fields.
-/

namespace TablePartitioning

open Json RecordShape

/-- What an object gives for a field under one of its names. -/
def givenBy (entries : List (String × Json)) (names : List String) : Option Json :=
  names.findSome? (List.lookup · entries)

/-- How a record is written and read, where the names of each field are given. -/
structure ReadsRecord {Record : Type} (names : List (List String))
    (TakenFrom : (List String → Option Json) → Record → Prop) (InRange : Record → Prop)
    (write : Record → Json) (read : Json → Except DecodeError Record) : Prop where
  /-- A record is read from the text that is written for it. -/
  written : ∀ record, InRange record →
    ∃ json, parse? (write record).text = some json ∧ read json = .ok record
  ranged : ∀ json record, read json = .ok record → InRange record
  /-- An object is read exactly when each field in it is on its own and none is spelled twice. -/
  decodes : ∀ entries, (∃ record, read (.object entries) = .ok record) ↔
    (∀ entry ∈ entries, ∃ alone, read (.object [entry]) = .ok alone) ∧ SpelledOnce names entries
  taken : ∀ entries record, (entries.map Prod.fst).Nodup → read (.object entries) = .ok record →
    TakenFrom (givenBy entries) record
  /-- All names of a field mean the same. -/
  renamed : ∀ own ∈ names, ∀ first ∈ own, ∀ second ∈ own, ∀ before value after,
    read (.object (before ++ (first, value) :: after)) =
      read (.object (before ++ (second, value) :: after))
  reordered : ∀ entries others record, (entries.map Prod.fst).Nodup → entries.Perm others →
    read (.object entries) = .ok record → read (.object others) = .ok record
  /-- An array is read as the object of its items under the first names of the fields. -/
  arrays : ∀ values, values.length ≤ names.length →
    read (.array values) = read (.object ((names.filterMap List.head?).zip values))

variable {Record α : Type} {shape : RecordShape Json Record}
  {TakenFrom : (List String → Option Json) → Record → Prop} {InRange : Record → Prop}
  {write : Record → Json} {entries others cells : List (String × Json)} {record : Record}

theorem Takes.unique {read : Json → Except DecodeError α} {initial first second : α}
    {given : Option Json} (early : Takes read initial given first)
    (late : Takes read initial given second) : first = second := by
  cases given with
  | none => exact early.trans late.symm
  | some value => exact Except.ok.inj (early.symm.trans late)

/-! ## Fields in order -/

/-- A field that stores what is read is set to what its value is read as. -/
theorem storeItems_of_reads {field : RecordField Json Record}
    {fields : List (RecordField Json Record)} {value : Json} {values : List Json}
    {read : Json → Except DecodeError α} {set : Record → α → Record} {taken : α} {stored : Record}
    (stores : ∀ value record, field.store value record = (read value).map (set record))
    (reads : read value = .ok taken)
    (later : storeItems fields values (set record taken) = .ok stored) :
    storeItems (field :: fields) (value :: values) record = .ok stored := by
  rw [storeItems, stores, reads]
  exact later

/-- Entries in the order of the fields are read when their values are, one after the other. -/
theorem RecordShape.Lenient.ofEntries_of_items (lenient : shape.Lenient)
    (named : cells.map Prod.fst = shape.fields.map (·.name))
    (stores : storeItems shape.fields (cells.map Prod.snd) shape.initial = .ok record) :
    shape.ofEntries cells = .ok record := by
  have count : (cells.map Prod.snd).length = shape.fields.length := by
    have lengths := congrArg List.length named
    simpa using lengths
  have items : shape.namedItems (cells.map Prod.snd) = cells := by
    rw [namedItems, ← named, List.zip_map']
    exact List.map_id cells
  have reads : shape.ofItems strict (cells.map Prod.snd) = .ok record := by
    rw [ofItems, stores]
    simp [count]
  rw [← items, ← lenient.ofItems_eq_ofEntries strict fun _ => count.le, reads]

theorem filterMap_head?_names :
    (shape.fields.map (·.names)).filterMap List.head? = shape.fields.map (·.name) := by
  rw [List.filterMap_map]
  exact congrFun List.filterMap_eq_map' shape.fields

/-- An object with distinct names is one that a record can be read from. -/
theorem readable_object (distinct : (entries.map Prod.fst).Nodup) :
    shape.Readable strict (.object entries) where
  composite := fun single => by cases single
  distinct := distinct
  fitting := fun _ _ items => by cases items

/-! ## Records that are settled by what is given -/

/-- What decodes from an object is settled by what it gives for the fields. -/
structure Settled (shape : RecordShape Json Record)
    (TakenFrom : (List String → Option Json) → Record → Prop) : Prop where
  lenient : shape.Lenient
  taken : ∀ entries record, (entries.map Prod.fst).Nodup →
    shape.ofEntries entries = .ok record → TakenFrom (givenBy entries) record
  unique : ∀ given first second, TakenFrom given first → TakenFrom given second → first = second

/-- The fields that a record is written with: distinct, written exactly, and read in their order as
the record again. -/
structure WrittenAs (shape : RecordShape Json Record) (record : Record)
    (cells : List (String × Json)) : Prop where
  distinct : (cells.map Prod.fst).Nodup
  exact : Exact maxDepth (.object cells)
  decodes : shape.ofEntries (orderedFields cells) = .ok record

theorem Settled.decode_of_lookups (settled : Settled shape TakenFrom)
    (distinct : (entries.map Prod.fst).Nodup) (othersDistinct : (others.map Prod.fst).Nodup)
    (lookups : ∀ name, others.lookup name = entries.lookup name)
    (decodes : shape.ofEntries entries = .ok record) : shape.ofEntries others = .ok record := by
  have same : (List.lookup · others) = (List.lookup · entries) := funext lookups
  have given : givenBy others = givenBy entries := by
    funext names
    rw [givenBy, givenBy, same]
  -- the order can matter to neither: whether a record decodes and what it is are settled by lookups
  have otherDecodes : ∃ other, shape.ofEntries others = .ok other := by
    rw [settled.lenient.ofEntries_ok_iff othersDistinct, same,
      ← settled.lenient.ofEntries_ok_iff distinct]
    exact ⟨record, decodes⟩
  obtain ⟨other, otherDecodes⟩ := otherDecodes
  have otherTaken := settled.taken others other othersDistinct otherDecodes
  rw [given] at otherTaken
  have equal := settled.unique _ _ _ otherTaken (settled.taken entries record distinct decodes)
  rw [otherDecodes, equal]

/-- A record is read from what is written for it with the fields in the order of their names. -/
theorem Settled.decode_ordered (settled : Settled shape TakenFrom)
    (written : WrittenAs shape record cells) :
    shape.decode strict (Json.object cells).ordered = .ok record := by
  have orderedDistinct : ((orderedFields cells).map Prod.fst).Nodup := by
    rw [orderedFields_eq_map, List.map_map]
    exact written.distinct
  obtain ⟨sorted, isObject, inOrder, lookups⟩ := exists_ofFields orderedDistinct
  rw [ordered, isObject]
  exact settled.decode_of_lookups orderedDistinct inOrder.distinct lookups written.decodes

theorem Settled.readsRecord (settled : Settled shape TakenFrom)
    (preserves : shape.Preserves InRange) (initially : InRange shape.initial)
    (written : ∀ record, InRange record →
      ∃ cells, write record = .object cells ∧ WrittenAs shape record cells) :
    ReadsRecord (shape.fields.map (·.names)) TakenFrom InRange write (shape.decode strict) where
  written record inRange := by
    obtain ⟨cells, isObject, cellsWritten⟩ := written record inRange
    rw [isObject]
    exact ⟨_, cellsWritten.exact.parse?_text, settled.decode_ordered cellsWritten⟩
  ranged json record decodes := preserves.decode initially decodes
  decodes entries := settled.lenient.ofEntries_ok_iff_alone
  taken entries record distinct decodes := settled.taken entries record distinct decodes
  renamed own names first firstNamed second secondNamed before value after :=
    settled.lenient.ofEntries_renamed names firstNamed secondNamed
  reordered entries others record distinct perm decodes :=
    settled.decode_of_lookups distinct ((perm.map Prod.fst).nodup_iff.mp distinct)
      (fun _ => (lookup_eq_of_perm distinct perm).symm) decodes
  arrays values short := by
    rw [filterMap_head?_names]
    rw [List.length_map] at short
    exact settled.lenient.ofItems_eq_ofEntries strict fun _ => short

end TablePartitioning
