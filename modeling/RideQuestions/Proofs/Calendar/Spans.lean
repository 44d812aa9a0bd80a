import RideQuestions.Calendar.Span
import RideQuestions.Proofs.Outcome

/-! When dates and spans exist. Days of one month make a span whenever the month is one of the
twelve and the year one of the calendar, and the month before an instant has its span unless the
instant lies in the first month of all.
-/

namespace RideQuestions.Calendar

theorem daysIn_ge (year month : Nat)
    : 28 ≤ daysIn year month := by
  unfold daysIn
  split
  · split <;> decide
  · split <;> decide

/-- Numbers within the calendar make the date that has them. -/
theorem Date.of_eq_ok {year month day : Int} (hm : 1 ≤ month ∧ month ≤ 12)
    (hy : 1 ≤ year ∧ year ≤ 9999) (hd : 1 ≤ day ∧ day ≤ daysIn year.toNat month.toNat)
    : ∃ date, Date.of year month day = .ok date
      ∧ date.year = year.toNat ∧ date.month = month.toNat ∧ date.day = day.toNat := by
  unfold Date.of
  rw [dif_pos hm, dif_pos hy, dif_pos hd]
  exact ⟨_, rfl, rfl, rfl, rfl⟩

/-- The numbers of a date make the date. -/
theorem Date.of_self (d : Date)
    : Date.of d.year d.month d.day = .ok d := by
  have hm : 1 ≤ (d.month : Int) ∧ (d.month : Int) ≤ 12 :=
    ⟨Int.ofNat_le.mpr d.month_pos, Int.ofNat_le.mpr d.month_le⟩
  have hy : 1 ≤ (d.year : Int) ∧ (d.year : Int) ≤ 9999 :=
    ⟨Int.ofNat_le.mpr d.year_pos, Int.ofNat_le.mpr d.year_le⟩
  have hd : 1 ≤ (d.day : Int) ∧ (d.day : Int) ≤ daysIn (d.year : Int).toNat (d.month : Int).toNat :=
    ⟨Int.ofNat_le.mpr d.day_pos, Int.ofNat_le.mpr d.day_le⟩
  rw [Date.of, dif_pos hm, dif_pos hy, dif_pos hd]
  rfl

theorem key_startOfDay (date : Date)
    : Instant.key ⟨date, .startOfDay⟩
      = ((date.year * 13 + date.month) * 32 + date.day) * 86400000000 := by
  unfold Instant.key
  dsimp only [Clock.startOfDay]
  omega

theorem key_endOfDay (date : Date)
    : Instant.key ⟨date, .endOfDay⟩
      = ((date.year * 13 + date.month) * 32 + date.day) * 86400000000 + 86399999000 := by
  unfold Instant.key
  dsimp only [Clock.endOfDay]
  omega

namespace Span

theorem between_eq_ok {first last : Instant} (ordered : first.key ≤ last.key)
    : between first last = .ok ⟨first, last, ordered⟩ :=
  dif_pos ordered

/-- Two days of a month, the first not behind the second, are the ends of a span. -/
theorem exists_days {year month first last : Int} (hm : 1 ≤ month ∧ month ≤ 12)
    (hy : 1 ≤ year ∧ year ≤ 9999) (positive : 1 ≤ first) (ordered : first ≤ last)
    (inside : last ≤ daysIn year.toNat month.toNat)
    : ∃ span, days year month first last = .ok span := by
  obtain ⟨start, started, startYear, startMonth, startDay⟩ :=
    Date.of_eq_ok hm hy ⟨positive, Int.le_trans ordered inside⟩
  obtain ⟨finish, finished, finishYear, finishMonth, finishDay⟩ :=
    Date.of_eq_ok hm hy ⟨Int.le_trans positive ordered, inside⟩
  have keys : Instant.key ⟨start, .startOfDay⟩ ≤ Instant.key ⟨finish, .endOfDay⟩ := by
    have days : first.toNat ≤ last.toNat := Int.toNat_le_toNat ordered
    rw [key_startOfDay, key_endOfDay, startYear, startMonth, startDay, finishYear, finishMonth,
      finishDay]
    omega
  refine ⟨⟨_, _, keys⟩, ?_⟩
  simp only [days, started, finished, bind, Except.bind, between_eq_ok keys]

/-- Every month of the calendar is a span. -/
theorem exists_month {year month : Int} (hm : 1 ≤ month ∧ month ≤ 12)
    (hy : 1 ≤ year ∧ year ≤ 9999)
    : ∃ span, Span.month year month = .ok span := by
  have least := daysIn_ge year.toNat month.toNat
  exact exists_days hm hy (by decide) (by omega) (by omega)

/-- The month before an instant is a span unless no month is before it. -/
theorem exists_previousMonth_iff (now : Instant)
    : (∃ span, previousMonth now = .ok span) ↔ ¬(now.date.year = 1 ∧ now.date.month = 1) := by
  have := now.date.year_pos
  have := now.date.year_le
  have := now.date.month_pos
  have := now.date.month_le
  unfold previousMonth
  split
  · next january =>
      split
      · next first => simp [january, first]
      · next later => exact iff_of_true (exists_month (by decide) (by omega)) (by omega)
  · next later => exact iff_of_true (exists_month (by omega) (by omega)) (by omega)

/-- A span goes from the start of a day of a month to the end of a day of the same month. -/
structure Covers (span : Span) (year month firstDay lastDay : Int) : Prop where
  firstYear : span.first.date.year = year
  firstMonth : span.first.date.month = month
  firstDay : span.first.date.day = firstDay
  opens : span.first.clock = .startOfDay
  lastYear : span.last.date.year = year
  lastMonth : span.last.date.month = month
  lastDay : span.last.date.day = lastDay
  closes : span.last.clock = .endOfDay

variable {span other : Span} {year month first last : Int}

/-- The days of a month make the span that covers them. -/
theorem covers_of_days (made : days year month first last = .ok span)
    : span.Covers year month first last := by
  have named {day : Int} {date : Date} (made : Date.of year month day = .ok date)
      : (date.year : Int) = year ∧ (date.month : Int) = month ∧ (date.day : Int) = day := by
    unfold Date.of at made
    split at made
    · next hm =>
        split at made
        · next hy =>
            split at made
            · next hd =>
                obtain rfl := Except.ok.inj made
                exact ⟨Int.toNat_of_nonneg (by omega), Int.toNat_of_nonneg (by omega),
                  Int.toNat_of_nonneg (by omega)⟩
            · exact absurd made (by simp)
        · exact absurd made (by simp)
    · exact absurd made (by simp)
  obtain ⟨start, started, made⟩ := bind_eq_ok_iff.mp made
  obtain ⟨finish, finished, made⟩ := bind_eq_ok_iff.mp made
  obtain ⟨startYear, startMonth, startDay⟩ := named started
  obtain ⟨finishYear, finishMonth, finishDay⟩ := named finished
  unfold between at made
  split at made
  · obtain rfl := Except.ok.inj made
    exact ⟨startYear, startMonth, startDay, rfl, finishYear, finishMonth, finishDay, rfl⟩
  · exact absurd made (by simp)

/-- Covered days lie in a month of the calendar. -/
theorem Covers.bounds (h : span.Covers year month first last)
    : (1 ≤ month ∧ month ≤ 12) ∧ 1 ≤ year ∧ year ≤ 9999 := by
  have := h.firstYear
  have := h.firstMonth
  have := span.first.date.year_pos
  have := span.first.date.year_le
  have := span.first.date.month_pos
  have := span.first.date.month_le
  omega

/-- Only one span covers given days. -/
theorem Covers.unique (h : span.Covers year month first last)
    (same : other.Covers year month first last)
    : other = span := by
  obtain ⟨⟨start, starts⟩, ⟨finish, finishes⟩, _⟩ := span
  obtain ⟨⟨start', starts'⟩, ⟨finish', finishes'⟩, _⟩ := other
  have dates {d d' : Date} (years : d.year = d'.year) (months : d.month = d'.month)
      (days : d.day = d'.day) : d = d' := by
    cases d
    cases d'
    simp_all
  have starting : start' = start := by
    refine dates ?_ ?_ ?_
    · exact Int.ofNat_inj.mp (same.firstYear.trans h.firstYear.symm)
    · exact Int.ofNat_inj.mp (same.firstMonth.trans h.firstMonth.symm)
    · exact Int.ofNat_inj.mp (same.firstDay.trans h.firstDay.symm)
  have finishing : finish' = finish := by
    refine dates ?_ ?_ ?_
    · exact Int.ofNat_inj.mp (same.lastYear.trans h.lastYear.symm)
    · exact Int.ofNat_inj.mp (same.lastMonth.trans h.lastMonth.symm)
    · exact Int.ofNat_inj.mp (same.lastDay.trans h.lastDay.symm)
  obtain rfl := starting
  obtain rfl := finishing
  obtain rfl : starts' = starts := same.opens.trans h.opens.symm
  obtain rfl : finishes' = finishes := same.closes.trans h.closes.symm
  rfl

/-- A span is made of the days that it covers. -/
theorem days_eq_ok_iff
    : days year month first last = .ok span ↔ span.Covers year month first last := by
  refine ⟨covers_of_days, fun h => ?_⟩
  obtain ⟨hm, hy⟩ := h.bounds
  obtain ⟨⟨start, starts⟩, ⟨finish, finishes⟩, ordered⟩ := span
  obtain ⟨firstYear, firstMonth, firstDay, opens, lastYear, lastMonth, lastDay, closes⟩ := id h
  dsimp only at firstYear firstMonth firstDay opens lastYear lastMonth lastDay closes
  have := start.day_pos
  have days : first ≤ last := by
    obtain rfl := opens
    obtain rfl := closes
    have keys := ordered
    rw [key_startOfDay, key_endOfDay, show start.year = finish.year by omega,
      show start.month = finish.month by omega] at keys
    omega
  have inside := finish.day_le
  rw [show finish.year = year.toNat by omega, show finish.month = month.toNat by omega] at inside
  obtain ⟨made, same⟩ := exists_days hm hy (by omega : 1 ≤ first) days (by omega)
  rw [same, h.unique (covers_of_days same)]

/-- A whole month covers its days. -/
theorem month_eq_ok_iff {year month : Nat}
    : Span.month year month = .ok span ↔ span.Covers year month 1 (daysIn year month) :=
  days_eq_ok_iff

/-- The month before an instant is the one whose number is one less. -/
theorem previousMonth_eq {now : Instant} {year month : Nat} (hy : 1 ≤ year)
    (hm : 1 ≤ month ∧ month ≤ 12)
    (previous : 12 * year + month + 1 = 12 * now.date.year + now.date.month)
    : previousMonth now = Span.month year month := by
  have := now.date.month_pos
  have := now.date.month_le
  unfold previousMonth
  split
  · next january =>
      rw [if_neg (by omega), show month = 12 by omega]
      exact congrArg (Span.month · 12) (by omega)
  · next later =>
      rw [show now.date.year = year by omega]
      exact congrArg (Span.month year) (by omega)

/-- What is made for the month before an instant covers the month whose number is one less. -/
theorem exists_covers_of_previousMonth {now : Instant} (made : previousMonth now = .ok span)
    : ∃ year month : Nat, 12 * year + month + 1 = 12 * now.date.year + now.date.month
        ∧ span.Covers year month 1 (daysIn year month) := by
  have := now.date.year_pos
  have := now.date.month_pos
  have := now.date.month_le
  have later := (exists_previousMonth_iff now).mp ⟨span, made⟩
  have covered (year month : Nat) (hy : 1 ≤ year) (hm : 1 ≤ month ∧ month ≤ 12)
      (previous : 12 * year + month + 1 = 12 * now.date.year + now.date.month)
      : ∃ year month : Nat, 12 * year + month + 1 = 12 * now.date.year + now.date.month
          ∧ span.Covers year month 1 (daysIn year month) := by
    rw [previousMonth_eq hy hm previous] at made
    exact ⟨year, month, previous, month_eq_ok_iff.mp made⟩
  by_cases january : now.date.month = 1
  · exact covered (now.date.year - 1) 12 (by omega) (by omega) (by omega)
  · exact covered now.date.year (now.date.month - 1) (by omega) (by omega) (by omega)

end Span

end RideQuestions.Calendar
