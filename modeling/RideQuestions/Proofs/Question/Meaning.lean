import RideQuestions.Proofs.Question.Dating
import RideQuestions.Proofs.Question.Readers

/-! The time that a question means. It is found by the readers in the order of the kinds of phrases,
and nothing else is found.
-/

namespace RideQuestions.Question

open RideQuestions.Calendar RideQuestions.Text

variable {α β : Type}

-----------------------------------------------------------------------------------------
-- The time that is meant
-----------------------------------------------------------------------------------------

/-- The text of a question as its date phrases are read off it. -/
def textOf (question : String) : List Char :=
  (lower question).toList

section Meaning

variable {question : String} {now : Instant} {referenceYear : Int} {meaning : Option Span}

/-- The word behind a phrase is another one. -/
theorem Leftmost.stops {read : List String → Option β} {form : List String → α → Prop}
    {value : α → List String → β} {kind : List Char → α → Prop} {s before said behind : List Char}
    {a : α} (h : Leftmost kind s before said behind a) (reader : Reader read form value kind)
    : wordAhead behind = false :=
  (reader.occurs_iff.mp h.occurs).2.2.2

/-- The time that is meant is found. -/
theorem span?_eq_ok_of_meant (meant : Meant (textOf question) now referenceYear meaning)
    : span? question now referenceYear = .ok meaning := by
  have text : wording question = worded (textOf question) := rfl
  unfold span?
  rw [text]
  dsimp only
  cases meant with
  | lastMonth occurs previous covers =>
      obtain ⟨hm, hy⟩ := covers.bounds
      cases found : (worded (textOf question)).findSome? (atFirst? lastMonth?) with
      | none => exact absurd occurs (reader_lastMonth.findSome?_eq_none_iff.mp found _ _ _ _)
      | some _ =>
          dsimp only
          rw [Span.previousMonth_eq (by omega) (by omega) previous,
            Span.month_eq_ok_iff.mpr covers]
          rfl
  | firstWeek noLastMonth first dated covers =>
      rw [reader_lastMonth.findSome?_eq_none_iff.mpr noLastMonth,
        reader_firstWeek.findSome?_eq_some_iff.mpr ⟨_, _, _, _, first, rfl⟩]
      dsimp only
      rw [(weekYear_iff (first.stops reader_firstWeek)).mpr dated, Span.days_eq_ok_iff.mpr covers]
      rfl
  | month noLastMonth noFirstWeek first covers =>
      rw [reader_lastMonth.findSome?_eq_none_iff.mpr noLastMonth,
        reader_firstWeek.findSome?_eq_none_iff.mpr noFirstWeek,
        reader_monthYear.findSome?_eq_some_iff.mpr ⟨_, _, _, _, first, rfl⟩]
      dsimp only
      rw [Span.month_eq_ok_iff.mpr covers]
      rfl
  | nothing noLastMonth noFirstWeek noMonth =>
      rw [reader_lastMonth.findSome?_eq_none_iff.mpr noLastMonth,
        reader_firstWeek.findSome?_eq_none_iff.mpr noFirstWeek,
        reader_monthYear.findSome?_eq_none_iff.mpr noMonth]

/-- What is found is the time that is meant. -/
theorem meant_of_span?_eq_ok (found : span? question now referenceYear = .ok meaning)
    : Meant (textOf question) now referenceYear meaning := by
  have text : wording question = worded (textOf question) := rfl
  unfold span? at found
  rw [text] at found
  dsimp only at found
  cases last : (worded (textOf question)).findSome? (atFirst? lastMonth?) with
  | some _ =>
      rw [last] at found
      obtain ⟨span, made, rfl⟩ := map_eq_ok_iff.mp found
      obtain ⟨_, _, _, _, leftmost, _⟩ := reader_lastMonth.findSome?_eq_some_iff.mp last
      obtain ⟨year, month, previous, covers⟩ := Span.exists_covers_of_previousMonth made
      exact .lastMonth leftmost.occurs previous covers
  | none =>
      have noLastMonth := reader_lastMonth.findSome?_eq_none_iff.mp last
      rw [last] at found
      dsimp only at found
      cases week : (worded (textOf question)).findSome? (atFirst? firstWeek?) with
      | some named =>
          obtain ⟨_, _, behind, month, leftmost, rfl⟩ :=
            reader_firstWeek.findSome?_eq_some_iff.mp week
          rw [week] at found
          obtain ⟨span, made, rfl⟩ := map_eq_ok_iff.mp found
          exact .firstWeek noLastMonth leftmost
            ((weekYear_iff (leftmost.stops reader_firstWeek)).mp rfl) (Span.days_eq_ok_iff.mp made)
      | none =>
          have noFirstWeek := reader_firstWeek.findSome?_eq_none_iff.mp week
          rw [week] at found
          dsimp only at found
          cases dated : (worded (textOf question)).findSome? (atFirst? monthYear?) with
          | some named =>
              obtain ⟨_, _, _, ⟨month, year⟩, leftmost, rfl⟩ :=
                reader_monthYear.findSome?_eq_some_iff.mp dated
              rw [dated] at found
              obtain ⟨span, made, rfl⟩ := map_eq_ok_iff.mp found
              exact .month noLastMonth noFirstWeek leftmost (Span.month_eq_ok_iff.mp made)
          | none =>
              rw [dated] at found
              obtain rfl := Except.ok.inj found
              exact .nothing noLastMonth noFirstWeek
                (reader_monthYear.findSome?_eq_none_iff.mp dated)

/-- Every time that is meant goes from the start of the first day of a month to the end of a day of
the same month. -/
theorem Meant.within_month {s : List Char} {span : Span}
    (meant : Meant s now referenceYear (some span))
    : ∃ year month lastDay, span.Covers year month 1 lastDay := by
  cases meant with
  | lastMonth _ _ covers => exact ⟨_, _, _, covers⟩
  | firstWeek _ _ _ covers => exact ⟨_, _, _, covers⟩
  | month _ _ _ covers => exact ⟨_, _, _, covers⟩

end Meaning

/-- The date phrase of a question is read as the grammar says, at every instant but those of the
first month of the calendar and with every reference year of the calendar: one time or none is
meant, and it is the one that is found. A time that is found goes from the start of the first day of
a month to the end of a day of the same month. -/
theorem datePhrase_grammar (question : String) (now : Instant) {referenceYear : Int}
    (reference : 1 ≤ referenceYear ∧ referenceYear ≤ 9999)
    (later : ¬(now.date.year = 1 ∧ now.date.month = 1))
    : ∃ meaning, span? question now referenceYear = .ok meaning
        ∧ (∀ other, Meant (textOf question) now referenceYear other ↔ other = meaning)
        ∧ ∀ span, meaning = some span →
          span.first.date.day = 1 ∧ span.first.clock = .startOfDay
            ∧ span.last.clock = .endOfDay ∧ span.last.date.year = span.first.date.year
            ∧ span.last.date.month = span.first.date.month := by
  obtain ⟨meaning, found⟩ := (exists_span_iff question now reference).mpr fun _ => later
  have meant := meant_of_span?_eq_ok found
  refine ⟨meaning, found, fun other => ⟨fun means => ?_, ?_⟩, ?_⟩
  · exact Except.ok.inj ((span?_eq_ok_of_meant means).symm.trans found)
  · rintro rfl
    exact meant
  · rintro span rfl
    obtain ⟨year, month, lastDay, covers⟩ := meant.within_month
    refine ⟨by exact_mod_cast covers.firstDay, covers.opens, covers.closes, ?_, ?_⟩
    · exact_mod_cast covers.lastYear.trans covers.firstYear.symm
    · exact_mod_cast covers.lastMonth.trans covers.firstMonth.symm

/-- The first instant of a leap day. -/
def leapDay : Instant :=
  ⟨⟨2024, 2, 29, by decide, by decide, by decide, by decide, by decide, by decide⟩, .startOfDay⟩

/-- A year that is not written right behind a first week is still taken for it, even from before. -/
theorem datePhrase_grammar_june
    : ∃ span, Meant (textOf "In 2023, how many rides in the first week of June?") leapDay 2024
          (some span)
        ∧ span.Covers 2023 6 1 7 := by
  obtain ⟨meaning, found, means, _⟩ := datePhrase_grammar
    "In 2023, how many rides in the first week of June?" leapDay
    (by decide : (1 : Int) ≤ 2024 ∧ (2024 : Int) ≤ 9999) (by decide)
  have dated : span? "In 2023, how many rides in the first week of June?" leapDay 2024
      = (Span.days 2023 6 1 7).map some := rfl
  rw [dated] at found
  obtain ⟨span, made, rfl⟩ := map_eq_ok_iff.mp found
  exact ⟨span, (means _).mpr rfl, Span.days_eq_ok_iff.mp made⟩

end RideQuestions.Question
