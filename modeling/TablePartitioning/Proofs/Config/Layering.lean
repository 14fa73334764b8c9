import TablePartitioning.Config.Layers
import TablePartitioning.Proofs.Config.Fields
import TablePartitioning.Proofs.Config.Variables

/-!
# The environment over the configuration file

The environment and the file are put over each other name by name, before anything is decoded.
So a field has the value of its variable, else the one of the file, else its default, as long as
both spell it alike.  Where the file gives a field under one name and the environment under
another, both stay, and nothing decodes.
-/

namespace TablePartitioning.Config

open KeyPath RecordShape

/-- The environment, with the variables of a file of variables. -/
def allVariables (assignments : Option String) (environment : Environment) : Environment :=
  (assignments.map fun text => DotEnv.load text environment).getD environment

/-- What a configuration file holds by itself. -/
def ofFile (file : Option (String × Located)) : Json :=
  match fileSettings file with
  | .ok settings => overlay [settings]
  | .error _ => .object []

namespace Group

/-- What a file gives for a name in a group. -/
def fileGives (group : Group) (file : Option (String × Located)) (name : String) : Option Json :=
  group.shape.given Json.loose (group.tableOf (ofFile file)) name

/-- What variables give for a name in a group. -/
def variablesGive (group : Group) (environment : Environment) (name : String) : Option Json :=
  (environment.value? (group.name ++ "." ++ name)).map Json.string

/-- The value of a field, under whatever name: that of a variable, else that of the file. -/
def layered (group : Group) (file : Option (String × Located)) (environment : Environment)
    (names : List String) : Option Json :=
  (names.findSome? (group.variablesGive environment)).or
    (names.findSome? (group.fileGives file))

end Group

variable {file : Option (String × Located)} {assignments : Option String}
  {environment : Environment} {settings : AppSettings}

/-- No field is given by two variables under two of its names. -/
def SpelledOnce (environment : Environment) : Prop :=
  ∀ group : Group, group.shape.SpelledAlike (group.variablesGive environment)
    (group.variablesGive environment)

instance : Decidable (SpelledOnce environment) :=
  inferInstanceAs (Decidable (∀ group : Group, group.shape.SpelledAlike
    (group.variablesGive environment) (group.variablesGive environment)))

/-- No field is given by a variable under one of its names and by the file under another. -/
def SpelledAlike (file : Option (String × Located)) (environment : Environment) : Prop :=
  ∀ group : Group, group.shape.SpelledAlike (group.variablesGive environment) (group.fileGives file)

instance : Decidable (SpelledAlike file environment) :=
  inferInstanceAs (Decidable (∀ group : Group, group.shape.SpelledAlike
    (group.variablesGive environment) (group.fileGives file)))

/-- Whether a value is a list. -/
def isList : Json → Bool
  | .array _ => true
  | _ => false

/-- Variables go to the fields of a group by their names, and not where the file has the group as a
list, in which fields have no names. -/
def ByName (file : Option (String × Located)) (environment : Environment) : Prop :=
  ∀ entry ∈ environment, ∀ key, Environment.settingKey? entry.1 = some key →
    ∀ group : Group, ∀ step rest, ofText key = .key group.name :: step :: rest →
      (∃ name, step = .key name) ∧ isList (group.tableOf (ofFile file)) = false

/-! ## Tables of settings -/

theorem load_eq : load file assignments environment =
    ofLayers file (allVariables assignments environment) := rfl

theorem ofLayers_eq (readable : ∃ layer, fileSettings file = .ok layer) :
    ofLayers file environment = decode (putAll environment.settings (ofFile file)) := by
  obtain ⟨layer, readable⟩ := readable
  rw [ofLayers, ofFile, readable]
  rfl

theorem exists_layer (loads : ofLayers file environment = .ok settings) :
    ∃ layer, fileSettings file = .ok layer := by
  rw [ofLayers] at loads
  cases readable : fileSettings file with
  | error error => simp [readable] at loads
  | ok layer => exact ⟨layer, rfl⟩

theorem decode_eq_ok_iff {value : Json} :
    decode value = .ok settings ↔ AppSettings.decode Json.loose value = .ok settings := by
  rw [decode]
  cases AppSettings.decode Json.loose value <;> simp [Except.mapError]

theorem decode_eq_error {value : Json}
    (fails : ¬ ∃ settings, AppSettings.decode Json.loose value = .ok settings) :
    decode value = .error .undecodable := by
  rw [decode]
  cases decoded : AppSettings.decode Json.loose value with
  | error error => rfl
  | ok settings => exact absurd ⟨settings, decoded⟩ fails

/-- What a file holds is a table, and tables in it have their names in order. -/
theorem ofFile_ordered (file : Option (String × Located)) (depth : Nat) :
    (ofFile file).OrderedTo depth := by
  rw [ofFile]
  split
  · exact orderedTo_putAll (.empty depth)
  · exact .empty depth

theorem ofFile_object (file : Option (String × Located)) :
    ∃ entries, ofFile file = .object entries := by
  rw [ofFile]
  split
  · exact putAll_object
  · exact ⟨[], rfl⟩

theorem layers_object (file : Option (String × Located)) (environment : Environment) :
    ∃ entries, putAll environment.settings (ofFile file) = .object entries := by
  obtain ⟨entries, object⟩ := ofFile_object file
  exact object ▸ putAll_object

theorem tableOf_ordered {group : Group} {value : Json} (ordered : value.OrderedTo 2) :
    (group.tableOf value).OrderedTo 1 := by
  cases value with
  | object entries =>
      cases found : entries.lookup group.name with
      | none => simpa [Group.tableOf, Json.field?, found] using Json.OrderedTo.empty 1
      | some table => simpa [Group.tableOf, Json.field?, found] using ordered.lookup found
  | _ => exact .empty 1

theorem readable_of_composite {group : Group} {value : Json} (ordered : value.OrderedTo 1)
    (composite : Json.loose.contents value ≠ .single) : group.shape.Readable Json.loose value where
  composite := composite
  distinct := by
    cases value with
    | object entries => exact ordered.1.distinct
    | array items => exact group.shape_lenient.namedItems_distinct items
    | _ => exact List.nodup_nil
  fitting := by simp [Json.loose]

theorem readable_of_decode {group : Group} {value : Json} (ordered : value.OrderedTo 1)
    {decoded : group.Settings} (decodes : group.shape.decode Json.loose value = .ok decoded) :
    group.shape.Readable Json.loose value := by
  refine readable_of_composite ordered fun single => ?_
  rw [RecordShape.decode, single] at decodes
  cases decodes

/-! ## One variable by itself -/

/-- What decodes where a variable is all there is: the value at the end of its path. -/
theorem decode_of_loads {entry : String × String} {key : String} {group : Group}
    {rest : List Step} (loads : load none none [entry] = .ok settings)
    (holds : Environment.settingKey? entry.1 = some key)
    (path : ofText key = .key group.name :: rest) :
    group.shape.decode Json.loose (put (.string entry.2) rest .null) = .ok (group.of settings) := by
  have held : Environment.settings [entry] = [(key, .string entry.2)] := by
    simp [Environment.settings, holds, Environment.store]
  have tree : putAll (Environment.settings [entry]) (ofFile none) =
      .object [(group.name, put (.string entry.2) rest .null)] := by
    rw [held, putAll_cons, path]
    rfl
  rw [load_eq, ofLayers_eq ⟨[], rfl⟩, decode_eq_ok_iff] at loads
  have decodes := group.decode_tableOf (tree ▸ loads)
  simpa [Group.tableOf, Json.field?] using decodes

/-- A variable that loads by itself is not a group itself. -/
theorem ne_nil_of_loads {entry : String × String} {key : String} {group : Group}
    {rest : List Step} (loads : load none none [entry] = .ok settings)
    (holds : Environment.settingKey? entry.1 = some key)
    (path : ofText key = .key group.name :: rest) : rest ≠ [] := by
  rintro rfl
  have decodes := decode_of_loads loads holds path
  cases group <;> cases decodes

/-- A variable that loads by itself is not put past a field, and the field accepts its text. -/
theorem accepts_of_loads {entry : String × String} {key name : String} {group : Group}
    {deeper : List Step} (loads : load none none [entry] = .ok settings)
    (holds : Environment.settingKey? entry.1 = some key)
    (path : ofText key = .key group.name :: .key name :: deeper)
    {field : RecordField Json group.Settings} (member : field ∈ group.shape.fields)
    (named : name ∈ field.names) : deeper = [] ∧ field.Accepts (.string entry.2) := by
  have decodes := decode_of_loads loads holds path
  have fits := (group.shape_lenient.ofEntries_ok_iff (by simp)).mp
    ⟨_, (show group.shape.ofEntries [(name, put (.string entry.2) deeper .null)] = _ from decodes)⟩
  have accepts := fits.accepted field member name named _ List.lookup_cons_self
  obtain ⟨stored, stores⟩ := accepts group.shape.initial
  have single := group.single_of_store field member _ _ _ stores
  cases deeper with
  | nil => exact ⟨rfl, by simpa [put, merge] using accepts⟩
  | cons step deeper => cases step <;> cases single

/-! ## The environment over the file -/

variable {group : Group}

section Layers

variable (fileLoads : ∃ settings, load file none [] = .ok settings)
  (variablesLoad : ∀ entry ∈ environment, ∃ settings, load none none [entry] = .ok settings)
  (byName : ByName file environment)

include variablesLoad byName in
theorem enters_group : ∀ setting ∈ environment.settings, Enters group.name (ofText setting.1) := by
  intro setting member rest path
  obtain ⟨entry, entryMember, holds, -⟩ := Environment.mem_settings member
  obtain ⟨settings, loads⟩ := variablesLoad entry entryMember
  cases rest with
  | nil => exact absurd rfl (ne_nil_of_loads loads holds path)
  | cons step deeper =>
      obtain ⟨⟨name, rfl⟩, -⟩ := byName entry entryMember setting.1 holds group step deeper path
      exact ⟨name, deeper, rfl⟩

include variablesLoad in
theorem ends_at_field {field : RecordField Json group.Settings} {name : String}
    (member : field ∈ group.shape.fields) (named : name ∈ field.names) :
    ∀ setting ∈ environment.settings, EndsAt group.name name (ofText setting.1) := by
  intro setting settingMember deeper path
  obtain ⟨entry, entryMember, holds, -⟩ := Environment.mem_settings settingMember
  obtain ⟨settings, loads⟩ := variablesLoad entry entryMember
  exact (accepts_of_loads loads holds path member named).1

include variablesLoad in
theorem variables_fit (once : SpelledOnce environment) :
    group.shape.Fits (group.variablesGive environment) where
  accepted field member name named value found := by
    obtain ⟨text, given, rfl⟩ := Option.map_eq_some_iff.mp found
    obtain ⟨entry, entryMember, holds, rfl⟩ := Environment.mem_of_value? given
    obtain ⟨settings, loads⟩ := variablesLoad entry entryMember
    have path := (ofText_eq_pair_iff group.isKey_name (group.isKey_of_named member named)).mpr rfl
    exact (accepts_of_loads loads holds path member named).2
  once := once group

include fileLoads in
theorem file_decodes :
    ∃ decoded, group.shape.decode Json.loose (group.tableOf (ofFile file)) = .ok decoded := by
  obtain ⟨settings, loads⟩ := fileLoads
  obtain ⟨entries, object⟩ := ofFile_object file
  rw [load_eq, ofLayers_eq (exists_layer loads), decode_eq_ok_iff] at loads
  exact ⟨_, object ▸ group.decode_tableOf (object ▸ loads)⟩

include fileLoads in
theorem file_readable : group.shape.Readable Json.loose (group.tableOf (ofFile file)) := by
  obtain ⟨decoded, decodes⟩ := file_decodes fileLoads
  exact readable_of_decode (tableOf_ordered (ofFile_ordered file 2)) decodes

include fileLoads in
theorem file_fits : group.shape.Fits (group.fileGives file) :=
  ((file_readable fileLoads).decode_ok_iff group.shape_lenient).mp (file_decodes fileLoads)

/-- In a table, what is given under a name is what is found there. -/
theorem given_tableOf {value : Json} (name : String)
    (notList : isList (group.tableOf value) = false) :
    group.shape.given Json.loose (group.tableOf value) name = leaf? group.name name value := by
  rw [Group.tableOf] at notList ⊢
  rw [leaf?]
  cases found : value.field? group.name with
  | none => rfl
  | some table =>
      cases table with
      | array items => simp [found, isList] at notList
      | _ => rfl

include variablesLoad byName in
/-- A group that variables go into is a table, in which they are over what the file has. -/
theorem tableOf_of_touched
    (touched : ∃ setting ∈ environment.settings, ∃ later,
      ofText setting.1 = .key group.name :: later) :
    (∃ entries, group.tableOf (putAll environment.settings (ofFile file)) = .object entries) ∧
      ∀ field ∈ group.shape.fields, ∀ name ∈ field.names,
        leaf? group.name name (putAll environment.settings (ofFile file)) =
          (group.variablesGive environment name).or (group.fileGives file name) := by
  have enters : ∀ setting ∈ environment.settings, Enters group.name (ofText setting.1) :=
    enters_group variablesLoad byName
  constructor
  · obtain ⟨entries, found⟩ : ∃ entries, (putAll environment.settings (ofFile file)).field?
        group.name = some (.object entries) := field?_putAll_of_touched enters (.inr touched)
    exact ⟨entries, by rw [Group.tableOf, found]; rfl⟩
  · intro field member name named
    have texts : ∀ setting ∈ environment.settings, ∃ text, setting.2 = .string text := by
      intro setting settingMember
      obtain ⟨entry, -, -, text⟩ := Environment.mem_settings settingMember
      exact ⟨_, text⟩
    obtain ⟨setting, settingMember, later, path⟩ := touched
    obtain ⟨field', deeper, rfl⟩ := enters setting settingMember later path
    obtain ⟨entry, entryMember, holds, -⟩ := Environment.mem_settings settingMember
    have notList := (byName entry entryMember setting.1 holds group _ _ path).2
    rw [leaf?_putAll group.isKey_name (group.isKey_of_named member named)
        (Environment.settings_distinct environment) texts enters
        (ends_at_field variablesLoad member named),
      Environment.lookup_settings, ← given_tableOf name notList]
    rfl

/-- A group that no variable goes into is as the file has it. -/
theorem tableOf_of_untouched
    (untouched : ∀ setting ∈ environment.settings, ∀ later,
      ofText setting.1 ≠ .key group.name :: later) :
    group.tableOf (putAll environment.settings (ofFile file)) = group.tableOf (ofFile file) ∧
      ∀ field ∈ group.shape.fields, ∀ name ∈ field.names,
        group.variablesGive environment name = none := by
  refine ⟨by rw [Group.tableOf, field?_putAll_of_untouched untouched]; rfl, ?_⟩
  intro field member name named
  cases found : group.variablesGive environment name with
  | none => rfl
  | some value =>
      rw [Group.variablesGive, ← Environment.lookup_settings] at found
      have path := (ofText_eq_pair_iff group.isKey_name (group.isKey_of_named member named)).mpr rfl
      exact absurd path (untouched _ (mem_of_lookup found) _)

include fileLoads variablesLoad byName in
/-- In every group the variables are over the file, name by name. -/
theorem layers_overlaid (group : Group) :
    group.shape.Readable Json.loose
        (group.tableOf (putAll environment.settings (ofFile file))) ∧
      ∀ field ∈ group.shape.fields, ∀ name ∈ field.names,
        group.shape.given Json.loose
            (group.tableOf (putAll environment.settings (ofFile file))) name =
          (group.variablesGive environment name).or (group.fileGives file name) := by
  -- Only a group that no variable goes into may be a list, which has nothing under names.
  by_cases touched : ∃ setting ∈ environment.settings, ∃ later,
      ofText setting.1 = .key group.name :: later
  · obtain ⟨⟨entries, table⟩, overlaid⟩ := tableOf_of_touched variablesLoad byName touched
    refine ⟨readable_of_composite
      (tableOf_ordered (orderedTo_putAll (ofFile_ordered file 2))) ?_, ?_⟩
    · rw [table]
      exact fun impossible => nomatch impossible
    · intro field member name named
      rw [given_tableOf name (by rw [table]; rfl), overlaid field member name named]
  · have untouched : ∀ setting ∈ environment.settings, ∀ later,
        ofText setting.1 ≠ .key group.name :: later :=
      fun setting member later path => touched ⟨setting, member, later, path⟩
    obtain ⟨table, nothing⟩ := tableOf_of_untouched untouched
    rw [table]
    refine ⟨file_readable fileLoads, fun field member name named => ?_⟩
    rw [nothing field member name named]
    rfl

include fileLoads variablesLoad byName in
/-- The layers decode over each other exactly when they spell the fields alike. -/
theorem decode_layers_iff (once : SpelledOnce environment) :
    (∃ settings, AppSettings.decode Json.loose (putAll environment.settings (ofFile file)) =
        .ok settings) ↔
      SpelledAlike file environment := by
  obtain ⟨entries, object⟩ := layers_object file environment
  have ordered : Json.OrderedTo 1 (.object entries) :=
    object ▸ orderedTo_putAll (ofFile_ordered file 1)
  rw [object, Group.decode_ok_iff ordered.1.distinct, ← object]
  refine forall_congr' fun group => ?_
  obtain ⟨readable, overlaid⟩ := layers_overlaid fileLoads variablesLoad byName group
  rw [readable.decode_ok_iff group.shape_lenient,
    ← fits_or_iff (variables_fit variablesLoad once) (file_fits fileLoads)]
  exact ⟨fun fits => fits.of_agree overlaid,
    fun fits => fits.of_agree fun field member name named =>
      (overlaid field member name named).symm⟩

include fileLoads variablesLoad byName in
/-- What is given for a field of the layers over each other is what is layered for it. -/
theorem given_eq_layered (once : SpelledOnce environment) (alike : SpelledAlike file environment)
    (group : Group) : ∀ names ∈ group.shape.fields.map (·.names),
      names.findSome? (group.shape.given Json.loose
          (group.tableOf (putAll environment.settings (ofFile file)))) =
        group.layered file environment names := by
  intro names member
  obtain ⟨field, fieldMember, rfl⟩ := List.mem_map.mp member
  have overlaid := (layers_overlaid fileLoads variablesLoad byName group).2 field fieldMember
  rw [findSome?_of_agree overlaid,
    findSome?_or (variables_fit variablesLoad once) (alike group) fieldMember]
  rfl

end Layers

/-- A file and variables that load by themselves, where neither gives a field twice and variables
go to fields by their names: when they spell the fields alike, every field has the value of its
variable, else the one of the file, else its default; otherwise nothing is decoded. -/
theorem load_layered (file : Option (String × Located)) (assignments : Option String)
    (environment : Environment)
    (fileLoads : ∃ settings, load file none [] = .ok settings)
    (variablesLoad : ∀ entry ∈ allVariables assignments environment,
      ∃ settings, load none none [entry] = .ok settings)
    (once : SpelledOnce (allVariables assignments environment))
    (byName : ByName file (allVariables assignments environment)) :
    (SpelledAlike file (allVariables assignments environment) →
      ∃ settings, load file assignments environment = .ok settings ∧
        settings.db.TakenFrom Json.loose
          (Group.db.layered file (allVariables assignments environment)) ∧
        settings.log.TakenFrom Json.loose
          (Group.log.layered file (allVariables assignments environment))) ∧
    (¬ SpelledAlike file (allVariables assignments environment) →
      load file assignments environment = .error .undecodable) := by
  have readable : ∃ layer, fileSettings file = .ok layer := by
    obtain ⟨settings, loads⟩ := fileLoads
    exact exists_layer loads
  have decodes := decode_layers_iff fileLoads variablesLoad byName once
  rw [load_eq, ofLayers_eq readable]
  constructor
  · intro alike
    obtain ⟨settings, decoded⟩ := decodes.mpr alike
    obtain ⟨entries, object⟩ := layers_object file (allVariables assignments environment)
    have decodedGroup (group : Group) : group.shape.decode Json.loose (group.tableOf
        (putAll (allVariables assignments environment).settings (ofFile file))) =
          .ok (group.of settings) :=
      object ▸ group.decode_tableOf (object ▸ decoded)
    have overlaid := layers_overlaid fileLoads variablesLoad byName
    have agree := given_eq_layered fileLoads variablesLoad byName once alike
    exact ⟨settings, decode_eq_ok_iff.mpr decoded,
      DbSettings.takenFrom_of_decode (overlaid .db).1 (decodedGroup .db) (agree .db),
      LogSettings.takenFrom_of_decode (overlaid .log).1 (decodedGroup .log) (agree .log)⟩
  · exact fun apart => decode_eq_error (mt decodes.mp apart)

/-- A file that names the database and allows for three connections. -/
def urlFile : Option (String × Located) :=
  some ("partkit.toml", .file "partkit.toml" "[db]\nurl = \"file\"\nmax_connections = 3\n")

/-- A file that names the database under another of its names. -/
def dsnFile : Option (String × Located) :=
  some ("partkit.toml", .file "partkit.toml" "[db]\ndsn = \"file\"\n")

/-- A variable that names the database. -/
def urlVariable : Environment := [("PARTKIT__DB__URL", "env")]

/-- The variable goes over the file, which keeps its other setting. -/
theorem urlVariable_over_urlFile :
    ∃ settings, load urlFile none urlVariable = .ok settings ∧
      settings.db.TakenFrom Json.loose (Group.db.layered urlFile urlVariable) ∧
      settings.log.TakenFrom Json.loose (Group.log.layered urlFile urlVariable) := by
  have fileLoads : ∃ settings, load urlFile none [] = .ok settings :=
    ⟨{ AppSettings.default with
        db := { DbSettings.default with url := "file", maxConnections := 3 } }, by decide +kernel⟩
  have variablesLoad : ∀ entry ∈ allVariables none urlVariable,
      ∃ settings, load none none [entry] = .ok settings := by
    intro entry member
    obtain rfl := List.mem_singleton.mp member
    exact ⟨{ AppSettings.default with db := { DbSettings.default with url := "env" } },
      by decide +kernel⟩
  have byName : ByName urlFile (allVariables none urlVariable) := by
    intro entry member key holds group step rest path
    obtain rfl := List.mem_singleton.mp member
    have sameKey : Environment.settingKey? "PARTKIT__DB__URL" = some "db.url" := by decide +kernel
    obtain rfl := Option.some.inj (sameKey.symm.trans holds)
    have samePath : ofText "db.url" = [.key "db", .key "url"] := by decide +kernel
    have steps : [Step.key "db", .key "url"] = .key group.name :: step :: rest :=
      samePath.symm.trans path
    simp only [List.cons.injEq, Step.key.injEq] at steps
    refine ⟨⟨"url", steps.2.1.symm⟩, ?_⟩
    cases group with
    | db => decide +kernel
    | log => exact absurd steps.1 (by decide)
  exact (load_layered urlFile none urlVariable fileLoads variablesLoad (by decide +kernel)
    byName).1 (by decide +kernel)

/-- The file and the variable load by themselves and name one database each, but not together. -/
theorem urlVariable_over_dsnFile :
    (∃ settings, load dsnFile none [] = .ok settings) ∧
      (∃ settings, load none none urlVariable = .ok settings) ∧
      SpelledOnce urlVariable ∧
      load dsnFile none urlVariable = .error .undecodable :=
  ⟨⟨{ AppSettings.default with db := { DbSettings.default with url := "file" } },
      by decide +kernel⟩,
    ⟨{ AppSettings.default with db := { DbSettings.default with url := "env" } },
      by decide +kernel⟩,
    by decide +kernel, by decide +kernel⟩

end TablePartitioning.Config
