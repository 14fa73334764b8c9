import TablePartitioning.CommandLine.PartitionArgument
import TablePartitioning.Proofs.Ddl.DefinitionRules
import TablePartitioning.Proofs.Text.NeatTexts

/-!
# What an argument says of a partition

An argument is cut at its first equals sign, into a name and what holds its values.  Both kinds of
partitions are read in the same way but for the values, which are one for a range and the pieces
between commas for a list; `valuesOf` takes them from the text behind the equals sign as it stands.
What is read can be written down again without the blanks and reads as the same definition, which
lacks nothing that a definition needs but, perhaps, a valid name.
-/

namespace TablePartitioning.PartitionArgument

/-! ## Both kinds of arguments -/

/-- Read a partition of a kind. -/
def parse : BoundKind → String → Except Refusal Definition
  | .range => parseRange
  | .list => parseList

/-- The values of a kind in a text, without the blanks around them. -/
def valuesOf : BoundKind → String → List String
  | .range, text => [Text.trim text]
  | .list, text => ((Text.pieces ',' text).map Text.trim).filter (· ≠ "")

/-- A text holds values in this order: it is the one value of a range with blanks around it, or
those of a list between commas, with blanks around each and blank pieces among them. -/
def Holds : BoundKind → String → List String → Prop
  | .range, text, values => values = [Text.trim text]
  | .list, text, values =>
      ∃ pieces, text = ",".intercalate pieces ∧ (∀ piece ∈ pieces, ',' ∉ piece.toList) ∧
        values = (pieces.map Text.trim).filter (· ≠ "")

/-- An argument is cut at its first equals sign. -/
structure Cut (argument name value : String) : Prop where
  whole : argument = name ++ "=" ++ value
  first : '=' ∉ name.toList

/-- An argument without an equals sign, or with nothing but blanks on one side of the first. -/
def Malformed (argument : String) : Prop :=
  '=' ∉ argument.toList ∨
    ∃ name value, Cut argument name value ∧
      (Text.isBlankText name = true ∨ Text.isBlankText value = true)

/-- An argument whose pieces between the commas are all blank, behind the first equals sign. -/
def Valueless (argument : String) : Prop :=
  ∃ name pieces, Cut argument name (",".intercalate pieces) ∧
    (∀ piece ∈ pieces, ',' ∉ piece.toList) ∧ ∀ piece ∈ pieces, Text.isBlankText piece = true

variable {kind : BoundKind} {argument name value : String} {definition : Definition}

theorem splitOnce?_eq_some_iff :
    Text.splitOnce? '=' argument = some (name, value) ↔ Cut argument name value := by
  have characters : (name ++ "=" ++ value).toList = name.toList ++ '=' :: value.toList := by
    simp [String.toList_append]
  rw [Text.splitOnce?_eq_some_iff, ← characters, String.toList_inj]
  exact ⟨fun ⟨first, whole⟩ => ⟨whole, first⟩, fun cut => ⟨cut.first, cut.whole⟩⟩

theorem splitOnce?_eq_none_iff : Text.splitOnce? '=' argument = none ↔ '=' ∉ argument.toList :=
  Text.splitOnce?_eq_none_iff '=' argument

/-- A comma is no blank, so that it stands between the same pieces when a text is trimmed. -/
theorem map_trim_pieces_trim (text : String) :
    (Text.pieces ',' (Text.trim text)).map Text.trim = (Text.pieces ',' text).map Text.trim :=
  Text.map_trim_pieces_trim (by decide) text

theorem parse_of_uncut (uncut : '=' ∉ argument.toList) :
    parse kind argument = .error (.malformed argument) := by
  have nothing := splitOnce?_eq_none_iff.mpr uncut
  cases kind with
  | range => simp only [parse, parseRange, split, nothing]
  | list => simp only [parse, parseList, split, nothing]

theorem parse_of_blank (cut : Cut argument name value)
    (blank : Text.isBlankText name = true ∨ Text.isBlankText value = true) :
    parse kind argument = .error (.malformed argument) := by
  have parts := splitOnce?_eq_some_iff.mpr cut
  have either : (Text.isBlankText name || Text.isBlankText value) = true := by simpa using blank
  cases kind with
  | range => simp only [parse, parseRange, split, parts, either, reduceIte]
  | list => simp only [parse, parseList, split, parts, either, reduceIte]

theorem parse_of_cut (cut : Cut argument name value) (named : Text.isBlankText name = false)
    (valued : Text.isBlankText value = false) :
    parse kind argument =
      if valuesOf kind value = [] then .error (.withoutValues (Text.trim name))
      else .ok ⟨Text.trim name, kind, valuesOf kind value⟩ := by
  have parts := splitOnce?_eq_some_iff.mpr cut
  cases kind with
  | range => simp [parse, parseRange, split, parts, named, valued, valuesOf, Definition.range]
  | list =>
      have same : ((Text.pieces ',' (Text.trim value)).map Text.trim).filter (· ≠ "") =
          valuesOf .list value := by
        rw [valuesOf, map_trim_pieces_trim]
      simp only [parse, parseList, split, parts, named, valued, Definition.list, same,
        List.isEmpty_iff, Bool.or_self, Bool.false_eq_true, reduceIte]

theorem parse_eq_ok_iff :
    parse kind argument = .ok definition ↔
      ∃ name value, Cut argument name value ∧ Text.isBlankText name = false ∧
        Text.isBlankText value = false ∧ valuesOf kind value ≠ [] ∧
        definition = ⟨Text.trim name, kind, valuesOf kind value⟩ := by
  constructor
  · intro parsed
    cases parts : Text.splitOnce? '=' argument with
    | none =>
        rw [parse_of_uncut (splitOnce?_eq_none_iff.mp parts)] at parsed
        cases parsed
    | some found =>
        obtain ⟨name, value⟩ := found
        have cut := splitOnce?_eq_some_iff.mp parts
        by_cases blank : Text.isBlankText name = true ∨ Text.isBlankText value = true
        · rw [parse_of_blank cut blank] at parsed
          cases parsed
        · rw [not_or, Bool.not_eq_true, Bool.not_eq_true] at blank
          rw [parse_of_cut cut blank.1 blank.2] at parsed
          split at parsed
          · cases parsed
          · next valued =>
              cases parsed
              exact ⟨name, value, cut, blank.1, blank.2, valued, rfl⟩
  · rintro ⟨name, value, cut, named, filled, valued, rfl⟩
    rw [parse_of_cut cut named filled, if_neg valued]

/-! ## The values of an argument -/

theorem neat_trim_of_filled (filled : Text.isBlankText value = false) :
    Text.Neat (Text.trim value) := by
  apply Text.neat_trim
  rw [ne_eq, ← Text.isBlankText_iff_trim, filled]
  exact Bool.false_ne_true

theorem neat_of_mem_valuesOf (filled : Text.isBlankText value = false) :
    ∀ held ∈ valuesOf kind value, Text.Neat held := by
  cases kind with
  | range =>
      intro held member
      rw [List.mem_singleton.mp member]
      exact neat_trim_of_filled filled
  | list =>
      intro held member
      obtain ⟨trimmed, nonempty⟩ := List.mem_filter.mp member
      obtain ⟨piece, _, rfl⟩ := List.mem_map.mp trimmed
      exact Text.neat_trim (by simpa using nonempty)

theorem not_mem_of_mem_valuesOf {held : String} (member : held ∈ valuesOf .list value) :
    ',' ∉ held.toList := by
  obtain ⟨trimmed, _⟩ := List.mem_filter.mp member
  obtain ⟨piece, inPieces, rfl⟩ := List.mem_map.mp trimmed
  intro comma
  rw [Text.toList_trim] at comma
  exact Text.not_mem_of_mem_pieces inPieces (Text.mem_of_mem_trimWhere comma)

theorem comma_eq : "," = String.singleton ',' := by decide

theorem intercalate_pieces (text : String) : ",".intercalate (Text.pieces ',' text) = text := by
  rw [comma_eq, Text.intercalate_pieces]

theorem valuesOf_intercalate {pieces : List String} (nonempty : pieces ≠ [])
    (apart : ∀ piece ∈ pieces, ',' ∉ piece.toList) :
    valuesOf .list (",".intercalate pieces) = (pieces.map Text.trim).filter (· ≠ "") := by
  rw [valuesOf, comma_eq, Text.pieces_intercalate nonempty apart]

theorem filter_trim_eq_nil_iff {pieces : List String} :
    (pieces.map Text.trim).filter (· ≠ "") = [] ↔
      ∀ piece ∈ pieces, Text.isBlankText piece = true := by
  simp [Text.isBlankText_iff_trim]

theorem valuesOf_of_blank (blank : Text.isBlankText value = true) : valuesOf .list value = [] := by
  rw [valuesOf, ← map_trim_pieces_trim, (Text.isBlankText_iff_trim value).mp blank]
  decide

/-- Values that have been read are read again from where they are joined. -/
theorem valuesOf_joined (valued : valuesOf kind value ≠ [])
    (filled : Text.isBlankText value = false) :
    valuesOf kind (",".intercalate (valuesOf kind value)) = valuesOf kind value ∧
      Text.isBlankText (",".intercalate (valuesOf kind value)) = false := by
  cases kind with
  | range =>
      have neat := neat_trim_of_filled filled
      have alone : ",".intercalate (valuesOf .range value) = Text.trim value :=
        String.intercalate_singleton
      rw [alone, valuesOf, valuesOf, neat.trim_eq]
      exact ⟨rfl, neat.isBlankText_eq⟩
  | list =>
      have neat : ∀ held ∈ valuesOf .list value, Text.Neat held := neat_of_mem_valuesOf filled
      have again :
          valuesOf .list (",".intercalate (valuesOf .list value)) = valuesOf .list value := by
        rw [valuesOf_intercalate valued fun held => not_mem_of_mem_valuesOf]
        have trimmed : (valuesOf .list value).map Text.trim = valuesOf .list value :=
          (List.map_congr_left fun held member => (neat held member).trim_eq).trans (List.map_id' _)
        rw [trimmed, List.filter_eq_self]
        intro held member
        simpa using (neat held member).nonempty
      refine ⟨again, ?_⟩
      rw [← Bool.not_eq_true]
      intro blank
      rw [valuesOf_of_blank blank] at again
      exact valued again.symm

/-! ## What is read -/

/-- What an argument is read as, and when it is refused. -/
structure ReadsBack (kind : BoundKind) (argument : String) : Prop where
  /-- The name and the values stand on both sides of the first equals sign. -/
  meant : ∀ definition, parse kind argument = .ok definition →
    ∃ name value, Cut argument name value ∧ definition.name = Text.trim name ∧
      definition.kind = kind ∧ Holds kind value definition.values
  named : ∀ definition, parse kind argument = .ok definition →
    Text.Neat definition.name ∧ '=' ∉ definition.name.toList
  valued : ∀ definition, parse kind argument = .ok definition →
    ∀ value ∈ definition.values, Text.Neat value ∧ (kind = .list → ',' ∉ value.toList)
  /-- Only the name can keep a definition from being valid. -/
  judged : ∀ definition, parse kind argument = .ok definition →
    (definition.fault? kind = none ↔ Identifier.isValid definition.name = true)
  again : ∀ definition, parse kind argument = .ok definition →
    parse kind (definition.name ++ "=" ++ ",".intercalate definition.values) = .ok definition
  refused : (∃ refusal, parse kind argument = .error refusal) ↔
    Malformed argument ∨ kind = .list ∧ Valueless argument

theorem holds_valuesOf (kind : BoundKind) (value : String) :
    Holds kind value (valuesOf kind value) := by
  cases kind with
  | range => rfl
  | list =>
      exact ⟨Text.pieces ',' value, (intercalate_pieces value).symm,
        fun piece => Text.not_mem_of_mem_pieces, rfl⟩

theorem Cut.not_mem_trim (cut : Cut argument name value) : '=' ∉ (Text.trim name).toList := by
  intro member
  rw [Text.toList_trim] at member
  exact cut.first (Text.mem_of_mem_trimWhere member)

theorem hasValues_valuesOf (filled : Text.isBlankText value = false)
    (valued : valuesOf kind value ≠ []) : Definition.HasValues kind (valuesOf kind value) := by
  have kept (held : String) (member : held ∈ valuesOf kind value) : Text.trim held ≠ "" := by
    have neat := neat_of_mem_valuesOf filled held member
    rw [neat.trim_eq]
    exact neat.nonempty
  cases kind with
  | range => exact ⟨Text.trim value, rfl, kept _ (List.mem_singleton_self _)⟩
  | list => exact ⟨valued, kept⟩

theorem fault?_of_parse (parsed : parse kind argument = .ok definition) :
    definition.fault? kind = none ↔ Identifier.isValid definition.name = true := by
  obtain ⟨name, value, cut, named, filled, valued, rfl⟩ := parse_eq_ok_iff.mp parsed
  rw [Definition.fault?_eq_none_iff, Identifier.isValid_iff]
  exact ⟨fun wellFormed => wellFormed.named,
    fun names => ⟨names, rfl, hasValues_valuesOf filled valued⟩⟩

theorem parse_again (parsed : parse kind argument = .ok definition) :
    parse kind (definition.name ++ "=" ++ ",".intercalate definition.values) = .ok definition := by
  obtain ⟨name, value, cut, named, filled, valued, rfl⟩ := parse_eq_ok_iff.mp parsed
  have neat := neat_trim_of_filled named
  obtain ⟨same, kept⟩ := valuesOf_joined valued filled
  rw [parse_of_cut ⟨rfl, cut.not_mem_trim⟩ neat.isBlankText_eq kept, same, if_neg valued,
    neat.trim_eq]

theorem valueless_iff :
    Valueless argument ↔ ∃ name value, Cut argument name value ∧ valuesOf .list value = [] := by
  constructor
  · rintro ⟨name, pieces, cut, apart, blank⟩
    refine ⟨name, _, cut, ?_⟩
    rcases eq_or_ne pieces [] with rfl | nonempty
    · decide
    · rw [valuesOf_intercalate nonempty apart]
      exact filter_trim_eq_nil_iff.mpr blank
  · rintro ⟨name, value, cut, nothing⟩
    refine ⟨name, Text.pieces ',' value, ?_, fun piece => Text.not_mem_of_mem_pieces,
      filter_trim_eq_nil_iff.mp nothing⟩
    rwa [intercalate_pieces]

theorem valuesOf_range_ne_nil (value : String) : valuesOf .range value ≠ [] :=
  List.cons_ne_nil _ _

theorem parse_eq_error_iff :
    (∃ refusal, parse kind argument = .error refusal) ↔
      Malformed argument ∨ kind = .list ∧ Valueless argument := by
  constructor
  · rintro ⟨refusal, refused⟩
    cases parts : Text.splitOnce? '=' argument with
    | none => exact .inl (.inl (splitOnce?_eq_none_iff.mp parts))
    | some found =>
        obtain ⟨name, value⟩ := found
        have cut := splitOnce?_eq_some_iff.mp parts
        by_cases blank : Text.isBlankText name = true ∨ Text.isBlankText value = true
        · exact .inl (.inr ⟨name, value, cut, blank⟩)
        · rw [not_or, Bool.not_eq_true, Bool.not_eq_true] at blank
          rw [parse_of_cut cut blank.1 blank.2] at refused
          split at refused
          · next nothing =>
              cases kind with
              | range => exact absurd nothing (valuesOf_range_ne_nil value)
              | list => exact .inr ⟨rfl, valueless_iff.mpr ⟨name, value, cut, nothing⟩⟩
          · cases refused
  · rintro ((uncut | ⟨name, value, cut, blank⟩) | ⟨rfl, valueless⟩)
    · exact ⟨_, parse_of_uncut uncut⟩
    · exact ⟨_, parse_of_blank cut blank⟩
    · obtain ⟨name, value, cut, nothing⟩ := valueless_iff.mp valueless
      by_cases blank : Text.isBlankText name = true ∨ Text.isBlankText value = true
      · exact ⟨_, parse_of_blank cut blank⟩
      · rw [not_or, Bool.not_eq_true, Bool.not_eq_true] at blank
        exact ⟨_, by rw [parse_of_cut cut blank.1 blank.2, if_pos nothing]⟩

/-- Every argument, of either kind, means the definition that it is read as, or is refused for what
it lacks. -/
theorem argument_readsBack (kind : BoundKind) (argument : String) : ReadsBack kind argument where
  meant definition parsed := by
    obtain ⟨name, value, cut, _, _, _, rfl⟩ := parse_eq_ok_iff.mp parsed
    exact ⟨name, value, cut, rfl, rfl, holds_valuesOf kind value⟩
  named definition parsed := by
    obtain ⟨name, value, cut, filled, _, _, rfl⟩ := parse_eq_ok_iff.mp parsed
    exact ⟨neat_trim_of_filled filled, cut.not_mem_trim⟩
  valued definition parsed := by
    obtain ⟨name, value, _, _, filled, _, rfl⟩ := parse_eq_ok_iff.mp parsed
    intro held member
    refine ⟨neat_of_mem_valuesOf filled held member, ?_⟩
    rintro rfl
    exact not_mem_of_mem_valuesOf member
  judged _ parsed := fault?_of_parse parsed
  again _ parsed := parse_again parsed
  refused := parse_eq_error_iff

end TablePartitioning.PartitionArgument
