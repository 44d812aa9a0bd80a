import RideQuestions.Proofs.Calendar.Timeline
import RideQuestions.Proofs.Question.Meaning

/-! Whole months follow one another without a gap. Every instant in whole milliseconds lies in the
month of its date and in no other one, and the month before an instant's own, which is the month
that is meant by `last month`, ends one millisecond before that month begins.
-/

namespace RideQuestions.Calendar.Span

/-- A month of the calendar has the instants whose date lies in it. -/
theorem exists_month_mem_iff {year month : Int} (hy : 1 ≤ year ∧ year ≤ 9999)
    (hm : 1 ≤ month ∧ month ≤ 12)
    : ∃ span, Span.month year month = .ok span
        ∧ ∀ t : Instant, t.clock.microsecond % 1000 = 0 →
          (span.first.le t = true ∧ t.le span.last = true
            ↔ (t.date.year : Int) = year ∧ (t.date.month : Int) = month) := by
  obtain ⟨span, made⟩ := exists_month hm hy
  refine ⟨span, made, fun t whole => ?_⟩
  obtain ⟨y, rfl⟩ := Int.eq_ofNat_of_zero_le (by omega : 0 ≤ year)
  obtain ⟨m, rfl⟩ := Int.eq_ofNat_of_zero_le (by omega : 0 ≤ month)
  rw [(month_eq_ok_iff.mp made).mem_iff whole, Int.ofNat_inj, Int.ofNat_inj]

/-- The month before the one of an instant ends one millisecond before that one begins. -/
theorem Covers.adjoins {span : Span} {now : Instant} {year month : Nat}
    (covers : span.Covers year month 1 (daysIn year month))
    (previous : 12 * year + month + 1 = 12 * now.date.year + now.date.month)
    : span.last.elapsed + 1000 = now.monthStart.elapsed := by
  obtain ⟨hm, hy⟩ := covers.bounds
  rw [covers.elapsed_last, now.elapsed_monthStart,
    daysBefore_next (by omega) (by omega) ⟨now.date.month_pos, now.date.month_le⟩ previous]

/-- No other month ends at the same time as a month does. -/
theorem Covers.eq_of_month {span other : Span} {year month : Nat} {year' month' : Int}
    (covers : span.Covers year month 1 (daysIn year month))
    (made : Span.month year' month' = .ok other) (same : other.last.elapsed = span.last.elapsed)
    : other = span := by
  obtain ⟨hm, hy⟩ := (covers_of_days made).bounds
  obtain ⟨y, rfl⟩ := Int.eq_ofNat_of_zero_le (by omega : 0 ≤ year')
  obtain ⟨m, rfl⟩ := Int.eq_ofNat_of_zero_le (by omega : 0 ≤ month')
  exact covers.eq_of_elapsed (month_eq_ok_iff.mp made) same

end RideQuestions.Calendar.Span

namespace RideQuestions.Question

open RideQuestions.Calendar

/-- Whole months tile time. Every month of the calendar is a span that has, of the instants in whole
milliseconds, those whose date lies in the month, and what is no month of the calendar is refused.
At every instant behind the first month of all, a question that says `last month` means the month
that the instant one month earlier lies in, and this is the one month whose last millisecond goes
directly before the first instant of the month that it is asked in. -/
theorem months_tile
    : (∀ year month : Int, (1 ≤ year ∧ year ≤ 9999) ∧ 1 ≤ month ∧ month ≤ 12 →
        ∃ span, Span.month year month = .ok span
          ∧ ∀ t : Instant, t.clock.microsecond % 1000 = 0 →
            (span.first.le t = true ∧ t.le span.last = true
              ↔ (t.date.year : Int) = year ∧ (t.date.month : Int) = month))
      ∧ (∀ year month : Int, ¬((1 ≤ year ∧ year ≤ 9999) ∧ 1 ≤ month ∧ month ≤ 12) →
        ∃ e, Span.month year month = .error e)
      ∧ ∀ (question : String) (now : Instant) (referenceYear : Int)
          (before said behind : List Char),
        Occurs LastMonthSaid (textOf question) before said behind () →
        ¬(now.date.year = 1 ∧ now.date.month = 1) →
        ∃ earlier span, now.monthEarlier = .ok earlier
          ∧ Span.month earlier.date.year earlier.date.month = .ok span
          ∧ span? question now referenceYear = .ok (some span)
          ∧ span.last.elapsed + 1000 = now.monthStart.elapsed
          ∧ ∀ (year month : Int) (other : Span), Span.month year month = .ok other →
            other.last.elapsed + 1000 = now.monthStart.elapsed → other = span := by
  refine ⟨fun year month inside => Span.exists_month_mem_iff inside.1 inside.2,
    fun year month outside => ⟨_, Span.month_eq_error outside⟩, ?_⟩
  intro question now referenceYear before said behind occurs later
  obtain ⟨earlier, stepped, previous⟩ := now.exists_monthEarlier later
  have := earlier.date.month_pos
  have := earlier.date.month_le
  have := earlier.date.year_pos
  have := earlier.date.year_le
  obtain ⟨span, made⟩ : ∃ span, Span.month earlier.date.year earlier.date.month = .ok span :=
    Span.exists_month (by omega) (by omega)
  have covers := Span.month_eq_ok_iff.mp made
  have adjoins := covers.adjoins previous
  refine ⟨earlier, span, stepped, made, ?_, adjoins, fun year month other made' adjoins' => ?_⟩
  · exact span?_eq_ok_of_meant (.lastMonth occurs previous covers)
  · exact covers.eq_of_month made' (by omega)

/-- The last day of the month behind the leap day. -/
def endOfMarch : Instant :=
  {
    leapDay with
    date :=
      {
        leapDay.date with
        month := 3,
        day := 31,
        month_pos := by decide,
        month_le := by decide,
        day_pos := by decide,
        day_le := by decide
      }
  }

/-- At the end of March, the last month is a February to its leap day, and no month is the
thirteenth. -/
theorem months_tile_leapDay
    : ∃ span, endOfMarch.monthEarlier = .ok leapDay
        ∧ span? "Total distance of rides last month?" endOfMarch 2025 = .ok (some span)
        ∧ span.last.elapsed + 1000 = endOfMarch.monthStart.elapsed
        ∧ (span.first.le leapDay = true ∧ leapDay.le span.last = true)
        ∧ ∃ e, Span.month 2024 13 = .error e := by
  obtain ⟨tiles, outside, last⟩ := months_tile
  obtain ⟨earlier, span, stepped, made, found, adjoins, _⟩ :=
    last "Total distance of rides last month?" endOfMarch 2025 "total distance of rides ".toList
      "last month".toList "?".toList
      ⟨rfl, .intro (b := [' ']) ⟨by decide, List.forall_mem_singleton.mpr (by decide)⟩,
        by unfold Boundary; decide, by unfold Boundary; decide⟩ (by decide)
  obtain rfl : leapDay = earlier := Except.ok.inj stepped
  obtain ⟨same, made', holds⟩ := tiles 2024 2 (by omega)
  obtain rfl : same = span := Except.ok.inj (made'.symm.trans made)
  have within := (holds leapDay rfl).mpr ⟨rfl, rfl⟩
  exact ⟨_, stepped, found, adjoins, within, outside 2024 13 (by omega)⟩

end RideQuestions.Question
