import TablePartitioning.Ddl.Strategy
import TablePartitioning.Proofs.Ddl.CalendarTiling
import TablePartitioning.Text.Numeral

/-!
# Spans that are accepted

The years of a request are integers of 32 bits, and the years that have dates are far from the
bounds of these.  A span is looked at once, when it is made of its two years; `Reliable` says what
need not be looked at again afterwards: its years can be counted and followed in 32 bits, each of
them and each of its months has its dates, and the tables for them can be written.
-/

namespace TablePartitioning

/-! ## Integers of 32 bits -/

theorem Word.signedBound_of_32 : Word.signedBound 32 = 2147483648 := rfl

theorem toInt_add_of_between {first second : Int32}
    (above : -Word.signedBound 32 ≤ first.toInt + second.toInt)
    (below : first.toInt + second.toInt < Word.signedBound 32) :
    (first + second).toInt = first.toInt + second.toInt := by
  rw [Word.signedBound_of_32] at above below
  rw [Int32.toInt_add]
  apply Int.bmod_eq_of_le
  · omega
  · omega

theorem toInt_sub_of_between {first second : Int32}
    (above : -Word.signedBound 32 ≤ first.toInt - second.toInt)
    (below : first.toInt - second.toInt < Word.signedBound 32) :
    (first - second).toInt = first.toInt - second.toInt := by
  rw [Word.signedBound_of_32] at above below
  rw [Int32.toInt_sub]
  apply Int.bmod_eq_of_le
  · omega
  · omega

/-- The next integer of 32 bits; the greatest is its own. -/
def saturatingNext (year : Int32) : Int32 :=
  if year = Int32.maxValue then year else year + 1

namespace YearSpan

theorem following_eq (year : Int32) : following year = (saturatingNext year).toInt := by
  have one : (1 : Int32).toInt = 1 := rfl
  have bound := Word.signedBound_of_32
  have greatest : Int32.maxValue.toInt = Word.signedBound 32 - 1 := rfl
  have least := year.le_toInt
  unfold following saturatingNext
  split
  · next same =>
      rw [same, greatest]
      omega
  · next different =>
      have apart : year.toInt ≠ Int32.maxValue.toInt := fun same =>
        different (Int32.toInt_inj.mp same)
      have bounded := year.toInt_le
      rw [toInt_add_of_between]
      · omega
      · omega
      · omega

/-! ## The years of a span as integers of 32 bits -/

variable {span : YearSpan} {year : Int}

theorem toInt_ofInt_of_mem (member : year ∈ span.years) : (Int32.ofInt year).toInt = year := by
  have exists_first := span.first_exists
  have exists_next := span.next_exists
  have bounds := span.mem_years.mp member
  unfold firstYear lastYear at *
  apply Int32.toInt_ofInt_of_le
  · omega
  · omega

/-- The year after a year of the span is reached without leaving the 32 bits. -/
theorem toInt_add_one_of_mem {word : Int32} (member : word.toInt ∈ span.years) :
    (word + 1).toInt = word.toInt + 1 := by
  have bound := Word.signedBound_of_32
  have one : (1 : Int32).toInt = 1 := rfl
  have exists_first := span.first_exists
  have exists_next := span.next_exists
  have bounds := span.mem_years.mp member
  unfold firstYear lastYear at *
  rw [toInt_add_of_between]
  · omega
  · omega
  · omega

theorem toInt_sub_of_ends {start finish : Int32} (first : span.first = start.toInt)
    (last : span.last = finish.toInt) : (finish - start).toInt = finish.toInt - start.toInt := by
  have bound := Word.signedBound_of_32
  have ordered := span.first_le_last
  have exists_first := span.first_exists
  have exists_next := span.next_exists
  unfold firstYear lastYear at *
  apply toInt_sub_of_between
  · omega
  · omega

theorem length_lt (span : YearSpan) : span.length < Word.signedBound 32 := by
  rw [Word.signedBound_of_32]
  have exists_first := span.first_exists
  have exists_next := span.next_exists
  unfold firstYear lastYear length at *
  omega

/-! ## What an accepted span is good for -/

/-- A span from one year to another whose years can be counted, followed, dated and written. -/
structure Reliable (start finish : Int32) (span : YearSpan) : Prop where
  ends : span.first = start.toInt ∧ span.last = finish.toInt
  /-- The years that are gone through, from the first to the last. -/
  ascending : span.years.Pairwise (· < ·) ∧
    ∀ year, year ∈ span.years ↔ start.toInt ≤ year ∧ year ≤ finish.toInt
  counted : span.length = span.years.length
  /-- The difference that the years are counted by is exact in 32 bits, and so is the count. -/
  difference : (finish - start).toInt = finish.toInt - start.toInt ∧
    span.length = (finish - start).toInt.toNat + 1 ∧ span.length < Word.signedBound 32
  /-- The years are integers of 32 bits, and so are the years after them. -/
  successor : ∀ year ∈ span.years, ∃ word : Int32, word.toInt = year ∧ (word + 1).toInt = year + 1
  yearDated : ∀ year ∈ span.years, yearBounds year = .ok (⟨year, .jan⟩, ⟨year + 1, .jan⟩)
  monthDated : ∀ year ∈ span.years, ∀ month,
    monthBounds year month = .ok (⟨year, month⟩, MonthStart.following ⟨year, month⟩)
  rendered : ∀ table column granularity includeFuture timestamp, ∃ statements,
    Strategy.render .partitionOf table
      (.calendar column ⟨span, granularity, includeFuture, timestamp⟩) = .ok statements

theorem reliable_of_ends {start finish : Int32} {span : YearSpan}
    (first : span.first = start.toInt) (last : span.last = finish.toInt) :
    Reliable start finish span := by
  have difference := toInt_sub_of_ends first last
  constructor
  case ends => exact ⟨first, last⟩
  case ascending =>
    refine ⟨span.ascending_years, ?_⟩
    intro year
    rw [span.mem_years, first, last]
  case counted => exact span.length_years.symm
  case difference =>
    refine ⟨difference, ?_, span.length_lt⟩
    rw [difference, length, first, last]
  case successor =>
    intro year member
    have word := toInt_ofInt_of_mem member
    refine ⟨Int32.ofInt year, word, ?_⟩
    rw [toInt_add_one_of_mem (word.symm ▸ member), word]
  case yearDated =>
    intro year member
    have dated := span.isCalendarYear_of_mem member
    exact yearBounds_eq dated.1 dated.2
  case monthDated =>
    intro year member month
    have dated := span.isCalendarYear_of_mem member
    exact monthBounds_eq month dated.1 dated.2
  case rendered =>
    intro table column granularity includeFuture timestamp
    exact ⟨_, (Ddl.tiles_span table column
      ⟨span, granularity, includeFuture, timestamp⟩).rendered⟩

/-! ## How a span is looked at -/

/-- What two years come to: the order is looked at before any date, the first year before the one
after the last. -/
inductive Checked (start finish : Int32) : Except Failure YearSpan → Prop where
  | reversed (reversed : finish < start) :
      Checked start finish (.error (.invalidRange start.toInt finish.toInt))
  | undated (ordered : start ≤ finish) (undated : isCalendarYear start.toInt = false) :
      Checked start finish (.error (.invalidDate start.toInt 1))
  | unbounded (ordered : start ≤ finish) (dated : isCalendarYear start.toInt = true)
      (unbounded : isCalendarYear (saturatingNext finish).toInt = false) :
      Checked start finish (.error (.invalidDate (saturatingNext finish).toInt 1))
  | accepted (span : YearSpan) (ordered : start ≤ finish)
      (dated : isCalendarYear start.toInt = true)
      (bounded : isCalendarYear (saturatingNext finish).toInt = true)
      (reliable : Reliable start finish span) :
      Checked start finish (.ok span)

theorem isCalendarYear_iff {year : Int} :
    isCalendarYear year = true ↔ firstYear ≤ year ∧ year ≤ lastYear := by
  rw [isCalendarYear, Bool.and_eq_true, decide_eq_true_eq, decide_eq_true_eq]

/-- Two years make a span exactly when they are in order and have the dates that bound it, and a
span that they make is reliable. -/
theorem between_checked (start finish : Int32) : Checked start finish (between start finish) := by
  unfold between
  split
  · next ordered =>
      have inOrder := Int32.le_iff_toInt_le.mpr ordered
      split
      · next starts =>
          have dated := isCalendarYear_iff.mpr starts
          split
          · next ends =>
              rw [following_eq] at ends
              exact .accepted _ inOrder dated (isCalendarYear_iff.mpr ends)
                (reliable_of_ends rfl rfl)
          · next missing =>
              rw [following_eq] at missing ⊢
              apply Checked.unbounded inOrder dated
              rwa [← Bool.not_eq_true, isCalendarYear_iff]
      · next missing =>
          apply Checked.undated inOrder
          rwa [← Bool.not_eq_true, isCalendarYear_iff]
  · next unordered =>
      apply Checked.reversed
      rw [Int32.lt_iff_toInt_lt]
      omega

end YearSpan

end TablePartitioning
