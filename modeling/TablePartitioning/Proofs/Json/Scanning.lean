import TablePartitioning.Json.Token
import TablePartitioning.Json.Writer
import TablePartitioning.Proofs.Text.Numeral

/-!
# Scanning what is written

The scan of a text goes on from the state that it is in, so that the parts of a text are scanned
one after the other.  A text between quotes is one token and leaves the scan between tokens.  A
word is found only when a mark or the end follows it: characters that are `Scanned` stand for
tokens of which the last may still be pending.
-/

namespace TablePartitioning.Json.Token

/-- Characters lead from a state to another and complete tokens on the way. -/
def Advances (state : State) (chars : List Char) (tokens : List Token) (next : State) : Prop :=
  ∀ found, chars.foldlM scanNext? (state, found) = some (next, tokens.reverse ++ found)

/-- Characters stand for tokens when they are between others and a mark or the end follows. -/
def Scanned (chars : List Char) (tokens : List Token) : Prop :=
  ∃ state found pending, Advances .between chars found state ∧ finish? state = some pending ∧
    tokens = found ++ pending

/-- A character that is a token of its own. -/
structure IsMark (c : Char) (token : Token) : Prop where
  start : start? c = some (.between, [token])
  apart : isWordChar c = false

variable {state middle next : State} {c : Char} {chars later written : List Char}
  {tokens first rest : List Token} {token : Token}

/-! ## One part after the other -/

theorem Advances.nil : Advances state [] [] state := fun _ => rfl

theorem Advances.cons (step : step? state c = some (middle, first))
    (advances : Advances middle chars rest next) :
    Advances state (c :: chars) (first ++ rest) next := by
  intro found
  have scanned : scanNext? (state, found) c = some (middle, first.reverse ++ found) := by
    simp only [scanNext?, step, Option.map_some]
  rw [List.foldlM_cons, scanned, Option.bind_eq_bind, Option.bind_some, advances,
    List.reverse_append, List.append_assoc]

/-- A character that completes no token. -/
theorem Advances.inside (step : step? state c = some (middle, []))
    (advances : Advances middle chars tokens next) : Advances state (c :: chars) tokens next :=
  Advances.cons step advances

theorem Advances.single (step : step? state c = some (next, tokens)) :
    Advances state [c] tokens next := by
  have advances := Advances.cons step Advances.nil
  rwa [List.append_nil] at advances

theorem Advances.append (early : Advances state chars first middle)
    (late : Advances middle later rest next) :
    Advances state (chars ++ later) (first ++ rest) next := by
  intro found
  rw [List.foldlM_append, early, Option.bind_eq_bind, Option.bind_some, late, List.reverse_append,
    List.append_assoc]

theorem scan?_of_scanned {text : String} (scanned : Scanned text.toList tokens) :
    scan? text = some tokens := by
  obtain ⟨state, found, pending, advances, ends, rfl⟩ := scanned
  simp [scan?, advances [], ends]

theorem Advances.scanned (advances : Advances .between chars tokens .between) :
    Scanned chars tokens :=
  ⟨.between, tokens, [], advances, rfl, (List.append_nil tokens).symm⟩

theorem Scanned.after (early : Advances .between chars first .between)
    (late : Scanned later rest) : Scanned (chars ++ later) (first ++ rest) := by
  obtain ⟨state, found, pending, advances, ends, rfl⟩ := late
  exact ⟨state, first ++ found, pending, early.append advances, ends,
    (List.append_assoc first found pending).symm⟩

/-! ## Marks -/

theorem IsMark.advances (mark : IsMark c token) : Advances .between [c] [token] .between :=
  Advances.single mark.start

/-- A mark completes what is pending. -/
theorem IsMark.step? (mark : IsMark c token) (ends : finish? state = some rest) :
    step? state c = some (.between, rest ++ [token]) := by
  cases state with
  | between =>
      cases ends
      exact mark.start
  | word written =>
      obtain ⟨word, known, rfl⟩ := Option.map_eq_some_iff.mp ends
      simp [Token.step?, mark.apart, mark.start, known]
  | _ => cases ends

theorem Scanned.mark (scanned : Scanned chars tokens) (mark : IsMark c token) :
    Advances .between (chars ++ [c]) (tokens ++ [token]) .between := by
  obtain ⟨state, found, pending, advances, ends, rfl⟩ := scanned
  rw [List.append_assoc]
  exact advances.append (Advances.single (mark.step? ends))

theorem isMark_openBracket : IsMark '[' .openBracket := ⟨rfl, rfl⟩
theorem isMark_closeBracket : IsMark ']' .closeBracket := ⟨rfl, rfl⟩
theorem isMark_openBrace : IsMark '\x7b' .openBrace := ⟨rfl, rfl⟩
theorem isMark_closeBrace : IsMark '\x7d' .closeBrace := ⟨rfl, rfl⟩
theorem isMark_colon : IsMark ':' .colon := ⟨rfl, rfl⟩
theorem isMark_comma : IsMark ',' .comma := ⟨rfl, rfl⟩

/-- Parts between commas are scanned when each of them is. -/
theorem scanned_intercalate {α : Type} {values : List α} {chars : α → List Char}
    {tokens : α → List Token} (scanned : ∀ value ∈ values, Scanned (chars value) (tokens value)) :
    Scanned ([','].intercalate (values.map chars)) ([comma].intercalate (values.map tokens)) := by
  induction values with
  | nil => exact Advances.nil.scanned
  | cons value values inductionHypothesis =>
      rw [List.forall_mem_cons] at scanned
      cases values with
      | nil => simpa using scanned.1
      | cons second values =>
          simp only [List.map_cons, List.intercalate_cons_cons]
          exact Scanned.after (scanned.1.mark isMark_comma) (inductionHypothesis scanned.2)

/-- What is between two marks is scanned with them. -/
theorem Scanned.enclosed {opening closing : Char} {start finish : Token}
    (scanned : Scanned chars tokens) (opens : IsMark opening start)
    (closes : IsMark closing finish) :
    Advances .between (opening :: chars ++ [closing]) (start :: tokens ++ [finish]) .between :=
  (Scanned.after opens.advances scanned).mark closes

/-! ## Texts -/

theorem hexDigit?_digitChar {digit : Nat} (bound : digit < 16) :
    Text.hexDigit? (Nat.digitChar digit) = some digit := by
  have all : ∀ digit < 16, Text.hexDigit? (Nat.digitChar digit) = some digit := by decide
  exact all digit bound

/-- A code unit below the space is that of a character. -/
theorem advances_codeUnit (low : c.toNat < 32) :
    Advances (.codeUnit written none [])
      ['0', '0', Nat.digitChar (c.toNat / 16), Nat.digitChar (c.toNat % 16)] []
      (.text (c :: written)) := by
  have high : Text.hexDigit? (Nat.digitChar (c.toNat / 16)) = some (c.toNat / 16) :=
    hexDigit?_digitChar (by omega)
  have last : Text.hexDigit? (Nat.digitChar (c.toNat % 16)) = some (c.toNat % 16) :=
    hexDigit?_digitChar (by omega)
  have unit : c.toNat / 16 * 16 + c.toNat % 16 = c.toNat := Nat.div_add_mod' c.toNat 16
  have ends : endUnit? written none c.toNat = some (.text (c :: written)) := by
    have whole : ¬ (0xD800 ≤ c.toNat ∧ c.toNat ≤ 0xDBFF) := by omega
    have alone : ¬ (0xDC00 ≤ c.toNat ∧ c.toNat ≤ 0xDFFF) := by omega
    simp [endUnit?, whole, alone, Char.ofNat_toNat]
  have fourth : Advances (.codeUnit written none [0, 0, c.toNat / 16])
      [Nat.digitChar (c.toNat % 16)] [] (.text (c :: written)) :=
    .single (by simp [step?, last, unit, ends])
  have third : Advances (.codeUnit written none [0, 0])
      [Nat.digitChar (c.toNat / 16), Nat.digitChar (c.toNat % 16)] [] (.text (c :: written)) :=
    .inside (by simp [step?, high]) fourth
  exact .inside rfl (.inside rfl third)

theorem advances_spell (c : Char) :
    Advances (.text written) (spell c) [] (.text (c :: written)) := by
  have escapes {letter : Char} (own : letter ≠ 'u') (stands : escaped? letter = some c) :
      Advances (.text written) ['\\', letter] [] (.text (c :: written)) :=
    .inside rfl (.single (by simp [step?, own, stands]))
  unfold spell
  split
  · next quote =>
      subst quote
      exact escapes (by decide) rfl
  split
  · next backslash =>
      subst backslash
      exact escapes (by decide) rfl
  split
  · next backspace =>
      subst backspace
      exact escapes (by decide) rfl
  split
  · next feed =>
      subst feed
      exact escapes (by decide) rfl
  split
  · next newline =>
      subst newline
      exact escapes (by decide) rfl
  split
  · next turn =>
      subst turn
      exact escapes (by decide) rfl
  split
  · next tab =>
      subst tab
      exact escapes (by decide) rfl
  split
  · next low => exact .inside rfl (.inside rfl (advances_codeUnit low))
  · next quote backslash _ _ _ _ _ printable =>
      exact .single (by simp [step?, quote, backslash, printable])

theorem advances_spelled (chars : List Char) :
    Advances (.text written) (chars.flatMap spell) [] (.text (chars.reverse ++ written)) := by
  induction chars generalizing written with
  | nil => exact .nil
  | cons c rest inductionHypothesis =>
      rw [List.flatMap_cons, List.reverse_cons, List.append_assoc]
      exact (advances_spell c).append inductionHypothesis

/-- A text that is written is scanned as a whole. -/
theorem advances_textToken (value : String) :
    Advances .between (textToken value).toList [.text value] .between := by
  have inside :
      Advances (.text []) (value.toList.flatMap spell) [] (.text value.toList.reverse) := by
    have spelled : Advances (.text []) (value.toList.flatMap spell) []
        (.text (value.toList.reverse ++ [])) := advances_spelled value.toList
    rwa [List.append_nil] at spelled
  have closes : Advances (.text value.toList.reverse) ['"'] [.text value] .between :=
    .single (by simp [step?])
  rw [textToken, String.toList_ofList]
  exact .inside rfl (inside.append closes)

/-! ## Words -/

theorem start?_of_isWordChar (wordChar : isWordChar c = true) :
    start? c = some (.word [c], []) := by
  have apart (mark : Char) (foreign : isWordChar mark = false) : c ≠ mark := by
    rintro rfl
    rw [wordChar] at foreign
    cases foreign
  simp [start?, isSpace, wordChar, apart ' ' rfl, apart '\n' rfl, apart '\r' rfl, apart '\t' rfl,
    apart '"' rfl, apart '[' rfl, apart ']' rfl, apart '\x7b' rfl, apart '\x7d' rfl, apart ':' rfl,
    apart ',' rfl]

theorem advances_inWord (wordChars : ∀ c ∈ chars, isWordChar c = true) :
    Advances (.word written) chars [] (.word (chars.reverse ++ written)) := by
  induction chars generalizing written with
  | nil => exact .nil
  | cons c rest inductionHypothesis =>
      rw [List.forall_mem_cons] at wordChars
      rw [List.reverse_cons, List.append_assoc]
      exact .inside (by simp [step?, wordChars.1]) (inductionHypothesis wordChars.2)

/-- A word is found when something else follows it. -/
theorem scanned_word (nonempty : chars ≠ []) (wordChars : ∀ c ∈ chars, isWordChar c = true)
    (known : ofWord? chars.reverse = some token) : Scanned chars [token] := by
  refine ⟨.word chars.reverse, [], [token], ?_, by rw [finish?, known]; rfl, rfl⟩
  cases chars with
  | nil => exact absurd rfl nonempty
  | cons c rest =>
      rw [List.forall_mem_cons] at wordChars
      rw [List.reverse_cons]
      exact .inside (start?_of_isWordChar wordChars.1) (advances_inWord wordChars.2)

end TablePartitioning.Json.Token
