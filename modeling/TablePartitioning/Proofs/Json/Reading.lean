import TablePartitioning.Json.Reader
import TablePartitioning.Proofs.Config.Tables
import TablePartitioning.Proofs.Json.Integers
import TablePartitioning.Proofs.Json.Scanning

/-!
# Reading what is written

A value without doubles whose integers fit is written exactly: its text is scanned as its tokens,
and its tokens are read as the value again, with the fields of every object in the order of their
names.  The text has no control characters, so that it stays on one line.
-/

namespace TablePartitioning.Json

/-- A value without doubles whose integers fit, with at most so many arrays and objects around one
another. -/
inductive Exact : Nat → Json → Prop
  | null {depth : Nat} : Exact depth .null
  | bool {depth : Nat} (value : Bool) : Exact depth (.bool value)
  | integer {depth : Nat} {value : Int} (wide : isWideInteger value = true) :
      Exact depth (.integer value)
  | string {depth : Nat} (value : String) : Exact depth (.string value)
  | array {depth : Nat} {items : List Json} (all : ∀ item ∈ items, Exact depth item) :
      Exact (depth + 1) (.array items)
  | object {depth : Nat} {fields : List (String × Json)}
      (all : ∀ field ∈ fields, Exact depth field.2) : Exact (depth + 1) (.object fields)

mutual

/-- The tokens that a value is written in. -/
def tokens : Json → List Token
  | .string value => [.text value]
  | .array items => .openBracket :: [.comma].intercalate (tokensOfItems items) ++ [.closeBracket]
  | .object fields => .openBrace :: [.comma].intercalate (tokensOfFields fields) ++ [.closeBrace]
  | value => [.word value]

/-- The tokens of the items of an array. -/
def tokensOfItems : List Json → List (List Token)
  | [] => []
  | item :: rest => item.tokens :: tokensOfItems rest

/-- The tokens of the fields of an object. -/
def tokensOfFields : List (String × Json) → List (List Token)
  | [] => []
  | (name, value) :: rest => (.text name :: .colon :: value.tokens) :: tokensOfFields rest

end

mutual

/-- A value with the fields of its objects in the order of their names. -/
def ordered : Json → Json
  | .array items => .array (orderedItems items)
  | .object fields => .ofFields (orderedFields fields)
  | value => value

/-- The items of an array, each in order. -/
def orderedItems : List Json → List Json
  | [] => []
  | item :: rest => item.ordered :: orderedItems rest

/-- The fields of an object with the value of each in order. -/
def orderedFields : List (String × Json) → List (String × Json)
  | [] => []
  | (name, value) :: rest => (name, value.ordered) :: orderedFields rest

end

variable {depth : Nat} {value : Json} {items : List Json} {fields : List (String × Json)}

/-! ## Items and fields one by one -/

theorem textOfItems_eq_map : textOfItems items = items.map text := by
  induction items with
  | nil => rfl
  | cons item rest inductionHypothesis => rw [textOfItems, inductionHypothesis, List.map_cons]

theorem textOfFields_eq_map :
    textOfFields fields = fields.map fun field => textToken field.1 ++ ":" ++ field.2.text := by
  induction fields with
  | nil => rfl
  | cons field rest inductionHypothesis => rw [textOfFields, inductionHypothesis, List.map_cons]

theorem tokensOfItems_eq_map : tokensOfItems items = items.map tokens := by
  induction items with
  | nil => rfl
  | cons item rest inductionHypothesis => rw [tokensOfItems, inductionHypothesis, List.map_cons]

theorem tokensOfFields_eq_map :
    tokensOfFields fields = fields.map fun field => .text field.1 :: .colon :: field.2.tokens := by
  induction fields with
  | nil => rfl
  | cons field rest inductionHypothesis => rw [tokensOfFields, inductionHypothesis, List.map_cons]

theorem orderedItems_eq_map : orderedItems items = items.map ordered := by
  induction items with
  | nil => rfl
  | cons item rest inductionHypothesis => rw [orderedItems, inductionHypothesis, List.map_cons]

theorem orderedFields_eq_map :
    orderedFields fields = fields.map fun field => (field.1, field.2.ordered) := by
  induction fields with
  | nil => rfl
  | cons field rest inductionHypothesis => rw [orderedFields, inductionHypothesis, List.map_cons]

theorem toList_text_array :
    (Json.array items).text.toList =
      '[' :: [','].intercalate (items.map fun item => item.text.toList) ++ [']'] := by
  have comma : ",".toList = [','] := rfl
  simp only [text, textOfItems_eq_map, String.toList_append, String.toList_intercalate,
    List.map_map, comma]
  rfl

theorem toList_text_object :
    (Json.object fields).text.toList =
      '\x7b' :: [','].intercalate (fields.map fun field =>
        (textToken field.1).toList ++ ':' :: field.2.text.toList) ++ ['\x7d'] := by
  have comma : ",".toList = [','] := rfl
  have each :
      (String.toList ∘ fun field : String × Json => textToken field.1 ++ ":" ++ field.2.text) =
        fun field => (textToken field.1).toList ++ ':' :: field.2.text.toList := by
    funext field
    simp [String.toList_append]
  simp only [text, textOfFields_eq_map, String.toList_append, String.toList_intercalate,
    List.map_map, comma, each]
  rfl

/-! ## The tokens of a text -/

namespace Token

theorem scanned_integer {value : Int} (wide : isWideInteger value = true) :
    Scanned (Text.Numeral.ofInt value).toList [.word (.integer value)] := by
  have wordChars : ∀ c ∈ (Text.Numeral.ofInt value).toList, isWordChar c = true := by
    intro c member
    rcases Text.Numeral.mem_ofInt member with digit | rfl
    · simp [isWordChar, Char.isAlphanum, digit]
    · rfl
  have nonempty : (Text.Numeral.ofInt value).toList ≠ [] := by
    obtain ⟨c, member, -⟩ := Text.Numeral.exists_isDigit_ofInt value
    exact List.ne_nil_of_mem member
  refine scanned_word nonempty wordChars ?_
  exact ofWord?_of_number (fun c => Text.Numeral.mem_ofInt) (number?_ofInt wide)

end Token

theorem Exact.scanned (exact : Exact depth value) :
    Token.Scanned value.text.toList value.tokens := by
  induction exact with
  | null => exact Token.scanned_word (by decide) (List.all_eq_true.mp rfl) rfl
  | bool value =>
      cases value with
      | false => exact Token.scanned_word (by decide) (List.all_eq_true.mp rfl) rfl
      | true => exact Token.scanned_word (by decide) (List.all_eq_true.mp rfl) rfl
  | integer wide => exact Token.scanned_integer wide
  | string value => exact (Token.advances_textToken value).scanned
  | @array _ items _ inductionHypothesis =>
      rw [toList_text_array, tokens, tokensOfItems_eq_map]
      exact ((Token.scanned_intercalate inductionHypothesis).enclosed Token.isMark_openBracket
        Token.isMark_closeBracket).scanned
  | @object _ fields _ inductionHypothesis =>
      rw [toList_text_object, tokens, tokensOfFields_eq_map]
      refine ((Token.scanned_intercalate fun field member => ?_).enclosed Token.isMark_openBrace
        Token.isMark_closeBrace).scanned
      have named := (Token.advances_textToken field.1).append Token.isMark_colon.advances
      simpa using Token.Scanned.after named (inductionHypothesis field member)

/-! ## The value of tokens -/

/-- Tokens lead a reader on to another. -/
def Reader.Leads (reader : Reader) (tokens : List Token) (next : Reader) : Prop :=
  tokens.foldlM Reader.step? reader = some next

/-- Tokens are read as a value wherever one may come, unless it would lie too deep. -/
def ReadAs (depth : Nat) (tokens : List Token) (value : Json) : Prop :=
  ∀ frames expected, frames.length + depth ≤ maxDepth →
    expected = .value ∨ expected = .valueOrEnd →
      Reader.Leads ⟨frames, expected⟩ tokens ⟨frames, .separator value⟩

variable {frames : List Frame} {expected : Expected}

theorem Reader.Leads.append {reader middle next : Reader} {first rest : List Token}
    (early : reader.Leads first middle) (late : middle.Leads rest next) :
    reader.Leads (first ++ rest) next := by
  rw [Leads, List.foldlM_append, early]
  exact late

theorem Reader.Leads.cons {reader middle next : Reader} {token : Token} {rest : List Token}
    (step : reader.step? token = some middle) (late : middle.Leads rest next) :
    reader.Leads (token :: rest) next := by
  rw [Leads, List.foldlM_cons, step]
  exact late

theorem Reader.Leads.nil {reader : Reader} : reader.Leads [] reader := rfl

/-- The items that are left of an array are read up to its end. -/
theorem leads_items (before : List Json)
    (readAs : ∀ item ∈ items, ReadAs depth item.tokens item.ordered) (nonempty : items ≠ [])
    (shallow : frames.length + 1 + depth ≤ maxDepth)
    (starts : expected = .value ∨ expected = .valueOrEnd) :
    Reader.Leads ⟨.array before :: frames, expected⟩
      ([.comma].intercalate (items.map tokens) ++ [.closeBracket])
      ⟨frames, .separator (.array (before.reverse ++ items.map ordered))⟩ := by
  induction items generalizing before expected with
  | nil => exact absurd rfl nonempty
  | cons item items inductionHypothesis =>
      rw [List.forall_mem_cons] at readAs
      have own := readAs.1 (.array before :: frames) expected shallow starts
      -- the last item is followed by the bracket, any other by a comma
      cases items with
      | nil =>
          refine Reader.Leads.append (by simpa using own) (.cons ?_ .nil)
          simp [Reader.step?, Reader.close?]
      | cons second items =>
          have later := inductionHypothesis (item.ordered :: before) readAs.2
            (List.cons_ne_nil _ _) (.inl rfl)
          rw [List.reverse_cons, List.append_assoc] at later
          simp only [List.map_cons, List.intercalate_cons_cons, List.append_assoc] at later ⊢
          exact own.append (.cons rfl later)

/-- The fields that are left of an object are read up to its end. -/
theorem leads_fields (before : List (String × Json))
    (readAs : ∀ field ∈ fields, ReadAs depth field.2.tokens field.2.ordered)
    (nonempty : fields ≠ []) (shallow : frames.length + 1 + depth ≤ maxDepth)
    (starts : expected = .name before ∨ expected = .nameOrEnd before) :
    Reader.Leads ⟨frames, expected⟩
      ([.comma].intercalate (fields.map fun field => .text field.1 :: .colon :: field.2.tokens) ++
        [.closeBrace])
      ⟨frames, .separator
        (.ofFields (before.reverse ++ fields.map fun field => (field.1, field.2.ordered)))⟩ := by
  induction fields generalizing before expected with
  | nil => exact absurd rfl nonempty
  | cons field fields inductionHypothesis =>
      rw [List.forall_mem_cons] at readAs
      have named : Reader.step? ⟨frames, expected⟩ (.text field.1) =
          some ⟨frames, .colon before field.1⟩ := by
        rcases starts with rfl | rfl <;> rfl
      have own : Reader.Leads ⟨frames, expected⟩ (.text field.1 :: .colon :: field.2.tokens)
          ⟨.object before field.1 :: frames, .separator field.2.ordered⟩ :=
        .cons named (.cons rfl (readAs.1 _ .value shallow (.inl rfl)))
      cases fields with
      | nil =>
          refine Reader.Leads.append (by simpa using own) (.cons ?_ .nil)
          simp [Reader.step?, Reader.close?]
      | cons second fields =>
          have later := inductionHypothesis ((field.1, field.2.ordered) :: before) readAs.2
            (List.cons_ne_nil _ _) (.inl rfl)
          rw [List.reverse_cons, List.append_assoc] at later
          simp only [List.map_cons, List.intercalate_cons_cons, List.append_assoc] at later ⊢
          exact own.append (.cons rfl later)

theorem readAs_word (unopened : value.tokens = [.word value]) (same : value.ordered = value) :
    ReadAs depth value.tokens value.ordered := by
  intro frames expected _ starts
  rw [unopened, same]
  rcases starts with rfl | rfl <;> exact .cons rfl .nil

theorem Exact.readAs (exact : Exact depth value) : ReadAs depth value.tokens value.ordered := by
  induction exact with
  | null => exact readAs_word rfl rfl
  | bool value => exact readAs_word rfl rfl
  | integer wide => exact readAs_word rfl rfl
  | string value =>
      intro frames expected _ starts
      rcases starts with rfl | rfl <;> exact .cons rfl .nil
  | @array depth items _ inductionHypothesis =>
      intro frames expected shallow starts
      have room : frames.length < maxDepth := by omega
      have opens : Reader.step? ⟨frames, expected⟩ .openBracket =
          some ⟨.array [] :: frames, .valueOrEnd⟩ := by
        rcases starts with rfl | rfl <;> simp [Reader.step?, room]
      rw [tokens, ordered, tokensOfItems_eq_map, orderedItems_eq_map]
      refine .cons opens ?_
      -- nothing but an empty array may end where its first item is expected
      rcases eq_or_ne items [] with rfl | nonempty
      · exact .cons rfl .nil
      · exact leads_items [] inductionHypothesis nonempty (by omega) (.inr rfl)
  | @object depth fields _ inductionHypothesis =>
      intro frames expected shallow starts
      have room : frames.length < maxDepth := by omega
      have opens : Reader.step? ⟨frames, expected⟩ .openBrace = some ⟨frames, .nameOrEnd []⟩ := by
        rcases starts with rfl | rfl <;> simp [Reader.step?, room]
      rw [tokens, ordered, tokensOfFields_eq_map, orderedFields_eq_map]
      refine .cons opens ?_
      rcases eq_or_ne fields [] with rfl | nonempty
      · exact .cons rfl .nil
      · exact leads_fields [] inductionHypothesis nonempty (by omega) (.inr rfl)

/-- A text that is written is read as the value that it was written for. -/
theorem Exact.parse?_text (exact : Exact maxDepth value) :
    parse? value.text = some value.ordered := by
  have reads : Reader.Leads ⟨[], .value⟩ value.tokens ⟨[], .separator value.ordered⟩ :=
    exact.readAs [] .value (by simp) (.inl rfl)
  rw [Reader.Leads] at reads
  simp [parse?, ofTokens?, Token.scan?_of_scanned exact.scanned, reads, Reader.finish?]

/-! ## The characters of a text -/

/-- Characters none of which is a control. -/
def Printable (chars : List Char) : Prop := ∀ c ∈ chars, 32 ≤ c.toNat

instance decidablePrintable (chars : List Char) : Decidable (Printable chars) :=
  decidable_of_iff (chars.all fun c => 32 ≤ c.toNat) (by simp [Printable])

theorem Printable.append {first second : List Char} (early : Printable first)
    (late : Printable second) : Printable (first ++ second) := by
  intro c member
  exact (List.mem_append.mp member).elim (early c) (late c)

theorem Printable.cons {c : Char} {chars : List Char} (head : 32 ≤ c.toNat)
    (rest : Printable chars) : Printable (c :: chars) :=
  List.forall_mem_cons.mpr ⟨head, rest⟩

theorem Printable.intercalate {separator : List Char} {parts : List (List Char)}
    (between : Printable separator) (all : ∀ part ∈ parts, Printable part) :
    Printable (separator.intercalate parts) := by
  induction parts with
  | nil => exact List.forall_mem_nil _
  | cons part parts inductionHypothesis =>
      rw [List.forall_mem_cons] at all
      cases parts with
      | nil => simpa using all.1
      | cons second parts =>
          rw [List.intercalate_cons_cons]
          exact (all.1.append between).append (inductionHypothesis all.2)

theorem printable_spell (c : Char) : Printable (spell c) := by
  have digit : ∀ value < 16, 32 ≤ (Nat.digitChar value).toNat := by decide
  unfold spell
  iterate 7 (split; · decide)
  split
  · next low =>
      refine .cons (by decide) (.cons (by decide) (.cons (by decide) (.cons (by decide) ?_)))
      exact .cons (digit _ (by omega)) (.cons (digit _ (by omega)) (List.forall_mem_nil _))
  · next high => exact .cons (by omega) (List.forall_mem_nil _)

theorem printable_textToken (value : String) : Printable (textToken value).toList := by
  rw [textToken, String.toList_ofList]
  refine .cons (by decide) (Printable.append ?_ (.cons (by decide) (List.forall_mem_nil _)))
  intro c member
  obtain ⟨written, _, spelled⟩ := List.mem_flatMap.mp member
  exact printable_spell written c spelled

/-- What is written has no control characters, whatever is in its texts. -/
theorem Exact.printable (exact : Exact depth value) : Printable value.text.toList := by
  have comma : Printable [','] := by decide
  induction exact with
  | null => decide
  | bool value => cases value <;> decide
  | integer wide =>
      intro c member
      rcases Text.Numeral.mem_ofInt member with digit | rfl
      · have bounds := Text.Numeral.toNat_of_isDigit digit
        omega
      · decide
  | string value => exact printable_textToken value
  | @array _ items _ inductionHypothesis =>
      rw [toList_text_array]
      refine .cons (by decide) (Printable.append (.intercalate comma ?_) (by decide))
      rwa [List.forall_mem_map]
  | @object _ fields _ inductionHypothesis =>
      rw [toList_text_object]
      refine .cons (by decide) (Printable.append (.intercalate comma ?_) (by decide))
      rw [List.forall_mem_map]
      intro field member
      exact (printable_textToken field.1).append
        (.cons (by decide) (inductionHypothesis field member))

theorem Exact.newline_not_mem (exact : Exact depth value) : '\n' ∉ value.text.toList := by
  intro member
  exact absurd (exact.printable '\n' member) (by decide)

/-! ## Fields in the order of their names -/

theorem lookup_foldl_insertField {sorted : List (String × Json)}
    (distinct : (fields.map Prod.fst).Nodup) (name : String) :
    (fields.foldl (fun sorted (name, value) => insertField name value sorted) sorted).lookup name =
      (fields.lookup name).or (sorted.lookup name) := by
  induction fields generalizing sorted with
  | nil => rfl
  | cons field rest inductionHypothesis =>
      obtain ⟨first, value⟩ := field
      rw [List.map_cons, List.nodup_cons] at distinct
      rw [List.foldl_cons, inductionHypothesis distinct.2, lookup_insertField, lookup_field_cons]
      by_cases same : name = first
      · have absent : rest.lookup name = none := by
          refine List.lookup_eq_none_iff.mpr fun field member => ?_
          have different : name ≠ field.1 := fun equal =>
            distinct.1 (List.mem_map.mpr ⟨field, member, equal.symm.trans same⟩)
          simpa using different
        rw [absent, if_pos same, if_pos same]
        rfl
      · simp [same]

theorem sorted_foldl_insertField {sorted : List (String × Json)} (inOrder : Sorted sorted) :
    Sorted (fields.foldl (fun sorted (name, value) => insertField name value sorted) sorted) := by
  induction fields generalizing sorted with
  | nil => exact inOrder
  | cons field rest inductionHypothesis => exact inductionHypothesis inOrder.insertField

/-- An object from fields with distinct names has each under its name. -/
theorem exists_ofFields (distinct : (fields.map Prod.fst).Nodup) :
    ∃ sorted, ofFields fields = .object sorted ∧ Sorted sorted ∧
      ∀ name, sorted.lookup name = fields.lookup name := by
  refine ⟨_, rfl, sorted_foldl_insertField List.Pairwise.nil, fun name => ?_⟩
  rw [lookup_foldl_insertField distinct, List.lookup_nil, Option.or_none]

end TablePartitioning.Json
