import TablePartitioning.Calendar.Date
import TablePartitioning.Proofs.Text.Numeral

/-!
# Days of the calendar

Days are compared by year, month and number, and a day is read back from the text that a month
start is written as.  A day lies on one side of a month start or the other by its month alone, so
that such comparisons come down to the ordinals of months.
-/

namespace TablePartitioning

/-- Whether a year has a 29th of February. -/
def isLeapYear (year : Int) : Bool :=
  year % 4 = 0 && (year % 100 ≠ 0 || year % 400 = 0)

/-- The number of days of a month. -/
def Month.length (month : Month) (year : Int) : Nat :=
  match month with
  | .feb => if isLeapYear year then 29 else 28
  | .apr | .jun | .sep | .nov => 30
  | _ => 31

theorem Month.length_pos (month : Month) (year : Int) : 1 ≤ month.length year := by
  cases month <;> cases leap : isLeapYear year <;> simp [length, leap]

theorem Month.number_bounds (month : Month) : 1 ≤ month.number ∧ month.number ≤ 12 := by
  cases month <;> decide

theorem Month.number_injective {first second : Month} (same : first.number = second.number) :
    first = second := by
  cases first <;> cases second <;> first | rfl | cases same

theorem Month.name_injective {first second : Month} (same : first.name = second.name) :
    first = second := by
  cases first <;> cases second <;> first | rfl | exact absurd same (by decide)

/-- A day, of any year at all. -/
structure Day where
  year : Int
  month : Month
  number : Nat
  positive : 1 ≤ number
  inMonth : number ≤ month.length year
deriving DecidableEq

namespace Day

/-- One day is before another. -/
def Before (first second : Day) : Prop :=
  first.year < second.year ∨
    first.year = second.year ∧
      (first.month.number < second.month.number ∨
        first.month.number = second.month.number ∧ first.number < second.number)

instance (first second : Day) : Decidable (first.Before second) :=
  inferInstanceAs (Decidable (_ ∨ _))

/-- The day of a year, month and number, if the month has so many days. -/
def of? (year : Int) (month : Month) (number : Nat) : Option Day :=
  if inMonth : 1 ≤ number ∧ number ≤ month.length year then
    some ⟨year, month, number, inMonth.1, inMonth.2⟩
  else none

/-- The day that a text names by year, month and number with dashes between them, the last two of
two digits each. -/
def ofText? (text : String) : Option Day :=
  match text.toList.reverse with
  | units :: tens :: '-' :: monthUnits :: monthTens :: '-' :: year =>
      match Text.Numeral.integer? (String.ofList year.reverse),
        (Text.Numeral.digits? [monthTens, monthUnits]).bind Month.ofNumber?,
        Text.Numeral.digits? [tens, units] with
      | some year, some month, some number => of? year month number
      | _, _, _ => none
  | _ => none

/-- The place of the month of a day among all months. -/
def monthOrdinal (day : Day) : Int := 12 * day.year + day.month.number

end Day

/-! ## Reading a month start back -/

theorem integer?_yearText (year : Int) : Text.Numeral.integer? (yearText year) = some year := by
  have read : Text.Numeral.digits? (Text.Numeral.padded 4 year.natAbs).toList =
      some year.natAbs := by
    rw [Text.Numeral.toList_padded]
    exact Text.Numeral.digits?_zeros _ year.natAbs
  unfold yearText
  split
  · have magnitude : -(year.natAbs : Int) = year := by omega
    rw [Text.Numeral.integer?_of_minus read, magnitude]
  · have magnitude : (year.natAbs : Int) = year := by omega
    split
    · rw [Text.Numeral.integer?_of_digits read, magnitude]
    · rw [Text.Numeral.integer?_of_plus read, magnitude]

namespace MonthStart

/-- The month start as a day. -/
def firstDay (start : MonthStart) : Day :=
  ⟨start.year, start.month, 1, Nat.le_refl 1, start.month.length_pos start.year⟩

/-- The place of the month among all months. -/
def ordinal (start : MonthStart) : Int := 12 * start.year + start.month.number

/-- The start of the month that follows, also after the last month of a year. -/
def following (start : MonthStart) : MonthStart :=
  match start.month.next? with
  | some month => ⟨start.year, month⟩
  | none => ⟨start.year + 1, .jan⟩

theorem ordinal_following (start : MonthStart) :
    start.following.ordinal = start.ordinal + 1 := by
  rcases start with ⟨year, month⟩
  cases month <;> simp [following, ordinal, Month.next?, Month.number] <;> omega

theorem nextMonth?_eq_following (start : MonthStart)
    (hasNext : isCalendarYear (start.year + 1) = true) :
    start.nextMonth? = some start.following := by
  unfold nextMonth? following
  cases start.month.next? with
  | some month => rfl
  | none => exact if_pos hasNext

theorem padded_number (month : Month) :
    ∃ tens units, (Text.Numeral.padded 2 month.number).toList = [tens, units] ∧
      (Text.Numeral.digits? [tens, units]).bind Month.ofNumber? = some month := by
  rw [Text.Numeral.toList_padded]
  cases month <;> exact ⟨_, _, rfl, by decide⟩

/-- However the numeral of its year is written, the date of a month start is read back. -/
theorem ofText?_numbered {numeral : String} (start : MonthStart)
    (numbered : Text.Numeral.integer? numeral = some start.year) :
    Day.ofText? (numeral ++ "-" ++ Text.Numeral.padded 2 start.month.number ++ "-01") =
      some start.firstDay := by
  obtain ⟨tens, units, digits, read⟩ := padded_number start.month
  have spelled :
      (numeral ++ "-" ++ Text.Numeral.padded 2 start.month.number ++ "-01").toList.reverse =
        '1' :: '0' :: '-' :: units :: tens :: '-' :: numeral.toList.reverse := by
    simp [String.toList_append, digits]
  have day : Text.Numeral.digits? ['0', '1'] = some 1 := by decide
  have inMonth : 1 ≤ start.month.length start.year := start.month.length_pos start.year
  rw [Day.ofText?, spelled]
  simp only [List.reverse_reverse, String.ofList_toList, numbered, read, day]
  rw [Day.of?, dif_pos ⟨Nat.le_refl 1, inMonth⟩]
  rfl

theorem ofText?_text (start : MonthStart) : Day.ofText? start.text = some start.firstDay := by
  exact start.ofText?_numbered (integer?_yearText start.year)

theorem january_joined (numeral : String) :
    numeral ++ "-" ++ Text.Numeral.padded 2 (Month.number .jan) ++ "-01" = numeral ++ "-01-01" := by
  have january : Text.Numeral.padded 2 (Month.number .jan) = "01" := by decide
  rw [january, String.append_assoc, String.append_assoc]
  rfl

theorem text_january (year : Int) :
    (⟨year, .jan⟩ : MonthStart).text = yearText year ++ "-01-01" := by
  exact january_joined (yearText year)

theorem not_before_firstDay_iff (start : MonthStart) (day : Day) :
    ¬ day.Before start.firstDay ↔ start.ordinal ≤ day.monthOrdinal := by
  have := day.positive
  have := day.month.number_bounds
  have := start.month.number_bounds
  simp only [Day.Before, firstDay, ordinal, Day.monthOrdinal]
  omega

theorem before_firstDay_iff (start : MonthStart) (day : Day) :
    day.Before start.firstDay ↔ day.monthOrdinal < start.ordinal := by
  rw [← Int.not_le, ← start.not_before_firstDay_iff day, Decidable.not_not]

end MonthStart

end TablePartitioning
