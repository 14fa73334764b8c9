import TablePartitioning.Decoding.Strict

/-!
# What is read strictly

A strict reading inverts a way of writing: a value is read exactly when it is what is written for
something that fits.  An optional value is written as null where there is none.
-/

namespace TablePartitioning.Json

/-- A reading takes what is written for the things that fit, and nothing else. -/
def Inverts {α : Type} (read : Json → Except DecodeError α) (write : α → Json) (Fits : α → Prop) :
    Prop :=
  ∀ value taken, read value = .ok taken ↔ value = write taken ∧ Fits taken

variable {α : Type} {read : Json → Except DecodeError α} {write : α → Json} {Fits : α → Prop}
  {value : Json} {taken : α}

theorem Inverts.read_write (inverts : Inverts read write Fits) (fits : Fits taken) :
    read (write taken) = .ok taken :=
  (inverts _ _).mpr ⟨rfl, fits⟩

theorem asText_eq_ok_iff {value : Json} {text : String} :
    value.asText = .ok text ↔ value = .string text := by
  cases value with
  | string other => simp [asText]
  | _ => simp [asText]

theorem asText_inverts : Inverts asText .string fun _ => True := by
  intro value text
  rw [and_true, asText_eq_ok_iff]

theorem asInteger_inverts (lowest bound : Int) (expected : String) :
    Inverts (asInteger lowest bound expected) .integer fun number =>
      lowest ≤ number ∧ number < bound := by
  intro value number
  cases value with
  | integer other =>
      by_cases fits : lowest ≤ other ∧ other < bound
      · simp only [asInteger, fits, decide_true, Bool.and_self, reduceIte, Except.ok.injEq,
          Json.integer.injEq]
        exact ⟨fun same => ⟨same, same ▸ fits⟩, fun ⟨same, _⟩ => same⟩
      · have refused : (decide (lowest ≤ other) && decide (other < bound)) = false := by
          rw [← Bool.not_eq_true, Bool.and_eq_true, decide_eq_true_eq, decide_eq_true_eq]
          exact fits
        simp only [asInteger, refused, Bool.false_eq_true, reduceIte, reduceCtorEq, false_iff,
          Json.integer.injEq]
        rintro ⟨rfl, fitting⟩
        exact fits fitting
  | _ => simp [asInteger]

theorem asNatural_inverts (bound : Nat) (expected : String) :
    Inverts (asNatural bound expected) (fun number : Nat => .integer number) (· < bound) := by
  intro value number
  have integers := asInteger_inverts 0 bound expected value
  rw [asNatural]
  constructor
  · intro reads
    obtain ⟨integer, readsInteger, rfl⟩ : ∃ integer,
        value.asInteger 0 bound expected = .ok integer ∧ integer.toNat = number := by
      cases result : value.asInteger 0 bound expected with
      | error error =>
          rw [result] at reads
          cases reads
      | ok integer =>
          rw [result] at reads
          cases reads
          exact ⟨integer, rfl, rfl⟩
    obtain ⟨rfl, nonnegative, below⟩ := (integers integer).mp readsInteger
    have same : (integer.toNat : Int) = integer := Int.toNat_of_nonneg nonnegative
    exact ⟨congrArg Json.integer same.symm, by omega⟩
  · rintro ⟨rfl, below⟩
    rw [(integers number).mpr ⟨rfl, by omega, by omega⟩]
    rfl

theorem optional_inverts (inverts : Inverts read write Fits)
    (filled : ∀ taken, write taken ≠ .null) :
    Inverts (strict.optional read) (ofOption write) fun taken? => ∀ taken ∈ taken?, Fits taken := by
  intro value taken?
  by_cases absent : value = .null
  · subst absent
    cases taken? with
    | none => exact ⟨fun _ => ⟨rfl, by simp⟩, fun _ => rfl⟩
    | some taken =>
        constructor
        · intro reads
          cases reads
        · rintro ⟨same, _⟩
          exact absurd same.symm (filled taken)
  · have given : strict.isNull value = false := by
      cases value with
      | null => exact absurd rfl absent
      | _ => rfl
    rw [Source.optional, given]
    cases taken? with
    | none =>
        refine ⟨fun reads => ?_, fun ⟨same, _⟩ => absurd same absent⟩
        cases result : read value with
        | error error =>
            rw [result] at reads
            cases reads
        | ok taken =>
            rw [result] at reads
            cases reads
    | some taken =>
        have inner := inverts value taken
        simp only [ofOption, Option.mem_some_iff, forall_eq', ← inner]
        cases read value <;> simp [Except.map]

end TablePartitioning.Json
