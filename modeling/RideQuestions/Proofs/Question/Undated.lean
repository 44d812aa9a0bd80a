import RideQuestions.Proofs.Question.Meaning

/-! Questions without a date of their own. A first week in a question without any year is dated by
the reference year alone, so that the date phrase of a question fails to be a time in two cases
only: for such a week when the reference year is none of the calendar, and for last month in the
very first month.
-/

namespace RideQuestions

namespace Calendar.Span

variable {e : CalendarError}

/-- The month before the first one of all is the only one that is missing. -/
theorem previousMonth_eq_error_iff {now : Instant}
    : previousMonth now = .error e
      ↔ (now.date.year = 1 ∧ now.date.month = 1) ∧ e = .yearOutOfRange 0 := by
  constructor
  · intro failed
    have first : now.date.year = 1 ∧ now.date.month = 1 := by
      by_contra later
      obtain ⟨span, made⟩ := (exists_previousMonth_iff now).mpr later
      exact absurd (made.symm.trans failed) (by simp)
    rw [previousMonth, if_pos first.2, if_pos first.1] at failed
    exact ⟨first, (Except.error.inj failed).symm⟩
  · rintro ⟨first, rfl⟩
    rw [previousMonth, if_pos first.2, if_pos first.1]

/-- Days that every month has are missing only in years that are none of the calendar. -/
theorem days_eq_error_iff {year month last : Int} (hm : 1 ≤ month ∧ month ≤ 12)
    (hd : 1 ≤ last ∧ last ≤ 28)
    : days year month 1 last = .error e
      ↔ ¬(1 ≤ year ∧ year ≤ 9999) ∧ e = .ofYear year := by
  by_cases hy : 1 ≤ year ∧ year ≤ 9999
  · have least := daysIn_ge year.toNat month.toNat
    obtain ⟨span, made⟩ := exists_days hm hy (by decide) hd.1 (by omega)
    rw [made]
    exact iff_of_false (by simp) (fun outside => outside.1 hy)
  · have refused : Date.of year month 1 = .error (.ofYear year) := by
      rw [Date.of, dif_pos hm, dif_neg hy]
    have failed : days year month 1 last = .error (.ofYear year) := by
      rw [days, refused]
      rfl
    rw [failed, Except.error.injEq]
    exact ⟨fun same => ⟨hy, same.symm⟩, fun h => h.2.symm⟩

end Calendar.Span

namespace Question

open Calendar Text

variable {s behind : List Char} {now : Instant} {referenceYear : Int} {e : CalendarError}

/-- The time of a question is a first week, and no year is written anywhere in it. -/
structure UndatedWeek (s : List Char) : Prop where
  noLastMonth : Absent LastMonthSaid s
  week : ∃ before said behind month, Occurs FirstWeekSaid s before said behind month
  yearless : Absent YearSaid s

/-- A year that is written behind a phrase stands in the text. -/
theorem YearBehind.occurs {year : Nat} (h : YearBehind behind year) (front : List Char)
    : ∃ before said rest, Occurs YearSaid (front ++ behind) before said rest year := by
  obtain ⟨g, y, rest, rfl, gap, said, closes⟩ := h
  obtain ⟨y, rfl⟩ := exists_toList_eq y
  have word := isWordText_of_yearNumber? (yearNumber?_eq_some_iff.mpr said)
  have apart {b : List Char} (blanks : Blanks b) (before : List Char)
      : wordBehind (before ++ b) = false := by
    have last := blanks.whole _ (List.getLast_mem blanks.filled)
    rw [wordBehind, List.getLast?_append, List.getLast?_eq_some_getLast blanks.filled]
    exact isWord_of_isBlank last
  have begins : wordBehind (front ++ g) = false := by
    cases gap with
    | blanks between => exact apart between front
    | of _ between =>
        rw [← List.append_assoc]
        exact apart between _
  refine ⟨front ++ g, y.toList, rest, by simp, said, ?_, ?_⟩
  · rw [Boundary, begins, wordAhead_append word.framed.1]
    exact Bool.false_ne_true
  · rw [Boundary, wordBehind_append word.framed.2] at closes ⊢
    exact closes

/-- A year that is found in a question is one of those that can be written. -/
theorem WeekYear.bounds {year : Int} (dated : WeekYear s behind referenceYear year)
    (written : ∃ before said rest y, Occurs YearSaid s before said rest y)
    : 1900 ≤ year ∧ year ≤ 2099 := by
  have near {said : List Char} {y : Nat} (h : YearSaid said y) : 1900 ≤ y ∧ y ≤ 2099 := by
    obtain ⟨text, rfl⟩ := exists_toList_eq said
    exact yearNumber?_bounds (yearNumber?_eq_some_iff.mpr h)
  cases dated with
  | behind written =>
      obtain ⟨_, _, _, _, _, said, _⟩ := written
      have := near said
      omega
  | anywhere _ first =>
      have := near first.occurs.spoken
      omega
  | reference _ yearless =>
      obtain ⟨_, _, _, _, occurs⟩ := written
      exact absurd occurs (yearless _ _ _ _)

/-- Without a year in a question, a first week is dated by the reference year. -/
theorem WeekYear.eq_reference {front : List Char} {year : Int}
    (dated : WeekYear s behind referenceYear year) (whole : s = front ++ behind)
    (yearless : Absent YearSaid s)
    : year = referenceYear := by
  cases dated with
  | behind written =>
      obtain ⟨_, _, _, occurs⟩ := written.occurs front
      rw [← whole] at occurs
      exact absurd occurs (yearless _ _ _ _)
  | anywhere _ first => exact absurd first.occurs (yearless _ _ _ _)
  | reference => rfl

/-- The first week that a question names has no date exactly when no year is written for it and the
reference year is none of the calendar. -/
theorem week_eq_error_iff {front said : List Char} {month : Nat} {year : Int}
    (noLastMonth : Absent LastMonthSaid s)
    (first : Leftmost FirstWeekSaid s front said behind month) (inYear : 1 ≤ month ∧ month ≤ 12)
    (dated : WeekYear s behind referenceYear year)
    : Span.days year month 1 7 = .error e
      ↔ UndatedWeek s ∧ ¬(1 ≤ referenceYear ∧ referenceYear ≤ 9999)
        ∧ e = .ofYear referenceYear := by
  rw [Span.days_eq_error_iff (by omega) (by decide)]
  by_cases yearless : Absent YearSaid s
  · rw [dated.eq_reference first.occurs.whole yearless]
    exact ⟨fun failed => ⟨⟨noLastMonth, ⟨_, _, _, _, first.occurs⟩, yearless⟩, failed⟩, And.right⟩
  · have := dated.bounds (by simpa [Absent] using yearless)
    exact iff_of_false (by omega) (fun undated => yearless undated.1.yearless)

/-- A month that is named with its year has its dates. -/
theorem exists_month_of_monthYear? {month year : Nat} {phrases : List (List String)}
    (named : phrases.findSome? (atFirst? monthYear?) = some (month, year))
    : ∃ span, Span.month year month = .ok span := by
  obtain ⟨_, read⟩ := exists_of_findSome?_atFirst? named
  obtain ⟨hm, hy⟩ := monthYear?_bounds read
  exact Span.exists_month (by omega) (by omega)

/-- A date phrase is no time exactly when it is last month and there is none, or a first week for
which no year is written and the reference year is none of the calendar. -/
theorem span?_eq_error_iff (question : String)
    : span? question now referenceYear = .error e
      ↔ ¬Absent LastMonthSaid (textOf question)
            ∧ (now.date.year = 1 ∧ now.date.month = 1) ∧ e = .yearOutOfRange 0
        ∨ UndatedWeek (textOf question)
            ∧ ¬(1 ≤ referenceYear ∧ referenceYear ≤ 9999) ∧ e = .ofYear referenceYear := by
  have mapped {made : Except CalendarError Span} : made.map some = .error e ↔ made = .error e := by
    cases made <;> simp [Except.map]
  have text : wording question = worded (textOf question) := rfl
  unfold span?
  rw [text]
  dsimp only
  cases last : (worded (textOf question)).findSome? (atFirst? lastMonth?) with
  | some _ =>
      have asked : ¬Absent LastMonthSaid (textOf question) := by
        rw [← reader_lastMonth.findSome?_eq_none_iff, last]
        exact Option.some_ne_none _
      rw [mapped, Span.previousMonth_eq_error_iff]
      constructor
      · exact fun failed => .inl ⟨asked, failed⟩
      · rintro (⟨_, failed⟩ | ⟨undated, _⟩)
        · exact failed
        · exact absurd undated.noLastMonth asked
  | none =>
      have noLastMonth := reader_lastMonth.findSome?_eq_none_iff.mp last
      rw [or_iff_right (fun asked => asked.1 noLastMonth)]
      cases week : (worded (textOf question)).findSome? (atFirst? firstWeek?) with
      | some named =>
          obtain ⟨before, said, behind, month, leftmost, rfl⟩ :=
            reader_firstWeek.findSome?_eq_some_iff.mp week
          obtain ⟨_, read⟩ := exists_of_findSome?_atFirst? week
          have hm := (firstWeek?_bounds read).1
          dsimp only
          generalize chosen : (yearAhead? (opening behind)
            <|> firstYear? (worded (textOf question))).elim referenceYear Int.ofNat = year
          have dated := (weekYear_iff (leftmost.stops reader_firstWeek)).mp chosen
          rw [mapped]
          exact week_eq_error_iff noLastMonth leftmost hm dated
      | none =>
          have noFirstWeek := reader_firstWeek.findSome?_eq_none_iff.mp week
          refine iff_of_false ?_ fun undated => ?_
          · cases named : (worded (textOf question)).findSome? (atFirst? monthYear?) with
            | some found =>
                obtain ⟨span, made⟩ := exists_month_of_monthYear? named
                dsimp only
                rw [made]
                exact nofun
            | none => exact nofun
          · obtain ⟨_, _, _, _, occurs⟩ := undated.1.week
            exact noFirstWeek _ _ _ _ occurs

end Question

end RideQuestions
