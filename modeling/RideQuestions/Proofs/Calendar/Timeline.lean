import RideQuestions.Proofs.Calendar.Spans

/-! Instants on a line. Counting days through months and years gives every instant its distance in
microseconds from one origin, in the order of instants, and by this distance whole months lie one
behind the other.
-/

namespace RideQuestions.Calendar

-----------------------------------------------------------------------------------------
-- Days before a month
-----------------------------------------------------------------------------------------

theorem daysIn_le (year month : Nat)
    : daysIn year month ≤ 31 := by
  unfold daysIn
  split
  · split <;> decide
  · split <;> decide

def yearLength (year : Nat) : Nat :=
  if isLeapYear year then 366 else 365

/-- Every fourth year is a leap year, but of those that end a century only every fourth one. -/
theorem daysBeforeYear_succ {year : Nat} (positive : 1 ≤ year)
    : Date.daysBeforeYear (year + 1) = Date.daysBeforeYear year + yearLength year := by
  obtain ⟨n, rfl⟩ : ∃ n, year = n + 1 := ⟨year - 1, by omega⟩
  have fewer : n / 100 ≤ n / 4 := by omega
  have length : yearLength (n + 1)
      = if 4 ∣ n + 1 ∧ (¬100 ∣ n + 1 ∨ 400 ∣ n + 1) then 366 else 365 := by
    simp [yearLength, isLeapYear, Nat.dvd_iff_mod_eq_zero]
  rw [Date.daysBeforeYear, Date.daysBeforeYear, length]
  simp only [Nat.add_sub_cancel, Nat.succ_div]
  by_cases four : 4 ∣ n + 1
  · by_cases hundred : 100 ∣ n + 1
    · by_cases cycle : 400 ∣ n + 1
      · rw [if_pos four, if_pos hundred, if_pos cycle, if_pos ⟨four, .inr cycle⟩]
        omega
      · rw [if_pos four, if_pos hundred, if_neg cycle,
          if_neg (fun leap => leap.2.elim (· hundred) cycle)]
        omega
    · have cycle : ¬400 ∣ n + 1 := by omega
      rw [if_pos four, if_neg hundred, if_neg cycle, if_pos ⟨four, .inl hundred⟩]
      omega
  · have hundred : ¬100 ∣ n + 1 := by omega
    have cycle : ¬400 ∣ n + 1 := by omega
    rw [if_neg four, if_neg hundred, if_neg cycle, if_neg (fun leap => four leap.1)]
    omega

/-- A count that grows by each month or year keeps the order of these. -/
theorem count_mono {count added : Nat → Nat}
    (grows : ∀ k, 1 ≤ k → count (k + 1) = count k + added k) {k later : Nat} (positive : 1 ≤ k)
    (ordered : k ≤ later)
    : count k ≤ count later := by
  induction ordered with
  | refl => exact Nat.le_refl _
  | step ordered ih =>
      rw [Nat.succ_eq_add_one, grows _ (Nat.le_trans positive ordered)]
      exact Nat.le_add_right_of_le ih

theorem daysBeforeYear_mono {year later : Nat} (positive : 1 ≤ year) (ordered : year ≤ later)
    : Date.daysBeforeYear year ≤ Date.daysBeforeYear later :=
  count_mono (fun _ => daysBeforeYear_succ) positive ordered

theorem daysBeforeMonth_succ (year : Nat) {month : Nat} (positive : 1 ≤ month)
    : Date.daysBeforeMonth year (month + 1)
      = Date.daysBeforeMonth year month + daysIn year month := by
  have longer : (List.range (month + 1)).drop 1 = (List.range month).drop 1 ++ [month] := by
    rw [List.range_succ, List.drop_append_of_le_length (by simpa using positive)]
  rw [Date.daysBeforeMonth, longer, List.foldl_append]
  rfl

theorem daysBeforeMonth_mono (year : Nat) {month later : Nat} (positive : 1 ≤ month)
    (ordered : month ≤ later)
    : Date.daysBeforeMonth year month ≤ Date.daysBeforeMonth year later :=
  count_mono (fun _ => daysBeforeMonth_succ year) positive ordered

/-- Twelve months are a year. -/
theorem daysBeforeMonth_thirteen (year : Nat)
    : Date.daysBeforeMonth year 13 = yearLength year := by
  have february : daysIn year 2 = if isLeapYear year then 29 else 28 := rfl
  have same : Date.daysBeforeMonth year 13 = 31 + daysIn year 2 + 306 := rfl
  rw [same, february, yearLength]
  split <;> rfl

/-- The days before a month, counted from the first day of year 1. -/
def daysBefore (year month : Nat) : Nat :=
  Date.daysBeforeYear year + Date.daysBeforeMonth year month

/-- A month ends where the next one begins. -/
theorem daysBefore_next {year month year' month' : Nat} (hy : 1 ≤ year)
    (hm : 1 ≤ month ∧ month ≤ 12) (hm' : 1 ≤ month' ∧ month' ≤ 12)
    (next : 12 * year + month + 1 = 12 * year' + month')
    : daysBefore year month + daysIn year month = daysBefore year' month' := by
  unfold daysBefore
  rw [Nat.add_assoc, ← daysBeforeMonth_succ year hm.1]
  by_cases december : month = 12
  · obtain rfl : year' = year + 1 := by omega
    obtain rfl : month' = 1 := by omega
    rw [december, daysBeforeMonth_thirteen, daysBeforeYear_succ hy]
    rfl
  · obtain rfl : year' = year := by omega
    obtain rfl : month' = month + 1 := by omega
    rfl

namespace Date

theorem ordinal_eq (d : Date)
    : d.ordinal = daysBefore d.year d.month + d.day := by
  rw [ordinal, dayOfYear, daysBefore, Nat.add_assoc]

/-- A number that grows with time: the fields of a date in mixed radix. -/
def key (d : Date) : Nat :=
  (d.year * 13 + d.month) * 32 + d.day

variable {d e : Date}

theorem eq_of_key (same : d.key = e.key)
    : d = e := by
  have := d.month_le
  have := e.month_le
  have := daysIn_le d.year d.month
  have := daysIn_le e.year e.month
  have := d.day_le
  have := e.day_le
  unfold key at same
  have years : d.year = e.year := by omega
  have months : d.month = e.month := by omega
  have days : d.day = e.day := by omega
  cases d
  cases e
  simp_all

/-- Dates are counted in their order. -/
theorem ordinal_lt (earlier : d.key < e.key)
    : d.ordinal < e.ordinal := by
  have := d.month_le
  have := d.day_le
  have := e.day_pos
  have := e.month_pos
  have := e.month_le
  have := daysIn_le d.year d.month
  have := daysIn_le e.year e.month
  have := e.day_le
  have within := daysBeforeMonth_succ d.year d.month_pos
  unfold key at earlier
  rw [ordinal_eq, ordinal_eq, daysBefore, daysBefore]
  by_cases sameYear : d.year = e.year
  · rw [← sameYear]
    by_cases sameMonth : d.month = e.month
    · rw [← sameMonth]
      omega
    · have := daysBeforeMonth_mono d.year (by omega) (by omega : d.month + 1 ≤ e.month)
      omega
  · have year := daysBeforeMonth_mono d.year (by omega) (by omega : d.month + 1 ≤ 13)
    rw [daysBeforeMonth_thirteen] at year
    have next := daysBeforeYear_succ d.year_pos
    have := daysBeforeYear_mono (by omega) (by omega : d.year + 1 ≤ e.year)
    omega

end Date

-----------------------------------------------------------------------------------------
-- Instants
-----------------------------------------------------------------------------------------

/-- The microseconds of a day before a time of day. -/
def Clock.micros (clock : Clock) : Nat :=
  ((clock.hour * 60 + clock.minute) * 60 + clock.second) * 1000000 + clock.microsecond

theorem Clock.micros_lt (clock : Clock)
    : clock.micros < 86400000000 := by
  have := clock.hour_lt
  have := clock.minute_lt
  have := clock.second_lt
  have := clock.microsecond_lt
  unfold micros
  omega

/-- A time in whole milliseconds leaves a whole millisecond to the end of the day. -/
theorem Clock.micros_le {clock : Clock} (whole : clock.microsecond % 1000 = 0)
    : clock.micros ≤ 86399999000 := by
  have := clock.hour_lt
  have := clock.minute_lt
  have := clock.second_lt
  have := clock.microsecond_lt
  unfold micros
  omega

theorem Clock.micros_startOfDay
    : Clock.startOfDay.micros = 0 :=
  rfl

theorem Clock.micros_endOfDay
    : Clock.endOfDay.micros = 86399999000 :=
  rfl

namespace Instant

/-- The microseconds before an instant, from the day before the first one of the calendar on. -/
def elapsed (t : Instant) : Nat :=
  t.date.ordinal * 86400000000 + t.clock.micros

variable {s t : Instant}

theorem key_eq (t : Instant)
    : t.key = t.date.key * 86400000000 + t.clock.micros := by
  unfold key Date.key Clock.micros
  omega

/-- Instants are in the order of what has elapsed before them, by comparison of their dates. -/
theorem le_iff_elapsed_le
    : s.le t = true ↔ s.elapsed ≤ t.elapsed := by
  have := s.clock.micros_lt
  have := t.clock.micros_lt
  rw [le, decide_eq_true_eq, key_eq, key_eq, elapsed, elapsed]
  rcases Nat.lt_trichotomy s.date.key t.date.key with earlier | same | later
  · have := Date.ordinal_lt earlier
    omega
  · rw [Date.eq_of_key same]
    omega
  · have := Date.ordinal_lt later
    omega

theorem date_eq_of_elapsed (same : s.elapsed = t.elapsed)
    : s.date = t.date := by
  have early := le_iff_elapsed_le.mpr (Nat.le_of_eq same)
  have late := le_iff_elapsed_le.mpr (Nat.le_of_eq same.symm)
  have := s.clock.micros_lt
  have := t.clock.micros_lt
  rw [le, decide_eq_true_eq, key_eq, key_eq] at early late
  exact Date.eq_of_key (by omega)

/-- No two instants are equally far on the line of time. -/
theorem eq_of_elapsed (same : s.elapsed = t.elapsed)
    : s = t := by
  have dates := date_eq_of_elapsed same
  have clocks : s.clock.micros = t.clock.micros := by
    rw [elapsed, elapsed, dates] at same
    exact Nat.add_left_cancel same
  have := s.clock.minute_lt
  have := s.clock.second_lt
  have := s.clock.microsecond_lt
  have := t.clock.minute_lt
  have := t.clock.second_lt
  have := t.clock.microsecond_lt
  unfold Clock.micros at clocks
  have hours : s.clock.hour = t.clock.hour := by omega
  have minutes : s.clock.minute = t.clock.minute := by omega
  have seconds : s.clock.second = t.clock.second := by omega
  have parts : s.clock.microsecond = t.clock.microsecond := by omega
  obtain ⟨_, clock⟩ := s
  obtain ⟨_, other⟩ := t
  cases clock
  cases other
  simp_all

/-- The first instant of the month that an instant lies in. -/
def monthStart (t : Instant) : Instant :=
  {
    date :=
      {
        t.date with
        day := 1,
        day_pos := Nat.one_pos,
        day_le := Nat.le_trans (by decide) (daysIn_ge t.date.year t.date.month)
      },
    clock := .startOfDay
  }

theorem elapsed_monthStart (t : Instant)
    : t.monthStart.elapsed = (daysBefore t.date.year t.date.month + 1) * 86400000000 := by
  have clock : t.monthStart.clock = .startOfDay := rfl
  have ordinal : t.monthStart.date.ordinal = daysBefore t.date.year t.date.month + 1 :=
    t.monthStart.date.ordinal_eq
  rw [elapsed, clock, ordinal, Clock.micros_startOfDay, Nat.add_zero]

/-- Year and month before those of an instant. -/
def monthBefore (t : Instant) : Nat × Nat :=
  if t.date.month = 1 then (t.date.year - 1, 12) else (t.date.year, t.date.month - 1)

/-- The instant one month earlier, on the last day of that month where it is too short. -/
def monthEarlier (t : Instant) : Except CalendarError Instant :=
  let (year, month) := t.monthBefore
  (Date.of year month (min t.date.day (daysIn year month) : Nat)).map fun date =>
    { date, clock := t.clock }

/-- One month earlier is in the month before, except in the very first month. -/
theorem exists_monthEarlier (t : Instant) (later : ¬(t.date.year = 1 ∧ t.date.month = 1))
    : ∃ earlier, t.monthEarlier = .ok earlier
        ∧ 12 * earlier.date.year + earlier.date.month + 1 = 12 * t.date.year + t.date.month := by
  have := t.date.year_pos
  have := t.date.year_le
  have := t.date.month_pos
  have := t.date.month_le
  have := t.date.day_pos
  obtain ⟨year, month, before, hy, hm, next⟩ : ∃ year month, t.monthBefore = (year, month)
      ∧ (1 ≤ year ∧ year ≤ 9999) ∧ (1 ≤ month ∧ month ≤ 12)
      ∧ 12 * year + month + 1 = 12 * t.date.year + t.date.month := by
    unfold monthBefore
    split
    · exact ⟨_, _, rfl, by omega, by omega, by omega⟩
    · exact ⟨_, _, rfl, by omega, by omega, by omega⟩
  have := daysIn_ge year month
  have inside : 1 ≤ ((min t.date.day (daysIn year month) : Nat) : Int)
      ∧ ((min t.date.day (daysIn year month) : Nat) : Int)
        ≤ daysIn (year : Int).toNat (month : Int).toNat := by
    rw [Int.toNat_natCast, Int.toNat_natCast]
    omega
  obtain ⟨date, found, sameYear, sameMonth, _⟩ := Date.of_eq_ok (by omega) (by omega) inside
  refine ⟨{ date, clock := t.clock }, ?_, ?_⟩
  · rw [monthEarlier, before]
    dsimp only
    rw [found]
    rfl
  · dsimp only
    omega

end Instant

namespace Span

variable {span other : Span} {year month year' month' : Nat}

/-- A whole month ends one millisecond before the day behind its last one. -/
theorem Covers.elapsed_last (h : span.Covers year month 1 (daysIn year month))
    : span.last.elapsed + 1000 = (daysBefore year month + daysIn year month + 1) * 86400000000 := by
  have sameYear : span.last.date.year = year := Int.ofNat_inj.mp h.lastYear
  have sameMonth : span.last.date.month = month := Int.ofNat_inj.mp h.lastMonth
  have sameDay : span.last.date.day = daysIn year month := Int.ofNat_inj.mp h.lastDay
  rw [Instant.elapsed, h.closes, Clock.micros_endOfDay, Date.ordinal_eq, sameYear, sameMonth,
    sameDay]
  omega

/-- Whole months that end at the same time are the same. -/
theorem Covers.eq_of_elapsed (h : span.Covers year month 1 (daysIn year month))
    (again : other.Covers year' month' 1 (daysIn year' month'))
    (same : other.last.elapsed = span.last.elapsed)
    : other = span := by
  have dates := Instant.date_eq_of_elapsed same
  have ends := again.lastYear
  have endsMonth := again.lastMonth
  rw [dates, h.lastYear] at ends
  rw [dates, h.lastMonth] at endsMonth
  obtain rfl : year = year' := Int.ofNat_inj.mp ends
  obtain rfl : month = month' := Int.ofNat_inj.mp endsMonth
  exact h.unique again

/-- Of the instants in whole milliseconds, a whole month has those of its year and month. -/
theorem Covers.mem_iff (h : span.Covers year month 1 (daysIn year month)) {t : Instant}
    (whole : t.clock.microsecond % 1000 = 0)
    : span.first.le t = true ∧ t.le span.last = true
      ↔ t.date.year = year ∧ t.date.month = month := by
  have opens : span.first.date.key = (year * 13 + month) * 32 + 1 := by
    rw [Date.key, Int.ofNat_inj.mp h.firstYear, Int.ofNat_inj.mp h.firstMonth,
      show span.first.date.day = 1 from Int.ofNat_inj.mp h.firstDay]
  have closes : span.last.date.key = (year * 13 + month) * 32 + daysIn year month := by
    rw [Date.key, Int.ofNat_inj.mp h.lastYear, Int.ofNat_inj.mp h.lastMonth,
      Int.ofNat_inj.mp h.lastDay]
  have := h.bounds
  have := daysIn_le year month
  have := daysIn_le t.date.year t.date.month
  have := t.date.month_pos
  have := t.date.month_le
  have := t.date.day_pos
  have := t.date.day_le
  have := Clock.micros_le whole
  rw [Instant.le, Instant.le, decide_eq_true_eq, decide_eq_true_eq, Instant.key_eq,
    Instant.key_eq, Instant.key_eq, opens, closes, h.opens, h.closes, Clock.micros_startOfDay,
    Clock.micros_endOfDay, Date.key]
  constructor
  · omega
  · rintro ⟨rfl, rfl⟩
    omega

/-- What is no month of the calendar has no span; its number is looked at before its year. -/
theorem month_eq_error {year month : Int}
    (outside : ¬((1 ≤ year ∧ year ≤ 9999) ∧ 1 ≤ month ∧ month ≤ 12))
    : Span.month year month
      = .error (if 1 ≤ month ∧ month ≤ 12 then .ofYear year else .badMonth month) := by
  have refused (day : Int) : Date.of year month day
      = .error (if 1 ≤ month ∧ month ≤ 12 then .ofYear year else .badMonth month) := by
    unfold Date.of
    split
    · next hm => rw [dif_neg (fun hy => outside ⟨hy, hm⟩)]
    · rfl
  rw [Span.month, days, refused]
  rfl

end Span

end RideQuestions.Calendar
