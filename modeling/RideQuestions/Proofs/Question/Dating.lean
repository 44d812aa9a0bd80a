import RideQuestions.Proofs.Calendar.Spans
import RideQuestions.Question.DatePhrase

/-! Every date phrase has its dates. The months and years that phrases name lie in the calendar, in
digits of any script, so that only the month before the first one of all is missing.
-/

namespace RideQuestions.Question

open RideQuestions.Calendar RideQuestions.Text

-----------------------------------------------------------------------------------------
-- What phrases name
-----------------------------------------------------------------------------------------

theorem monthNumber?_bounds {word : String} {month : Nat} (h : monthNumber? word = some month)
    : 1 ≤ month ∧ month ≤ 12 := by
  obtain ⟨i, found, rfl⟩ := Option.map_eq_some_iff.mp h
  obtain ⟨bound, _⟩ := List.findIdx?_eq_some_iff_getElem.mp found
  exact ⟨Nat.succ_pos i, bound⟩

/-- A year that a word writes begins with 19 or 20 and goes on with two digits. -/
theorem yearNumber?_bounds {word : String} {year : Nat} (h : yearNumber? word = some year)
    : 1900 ≤ year ∧ year ≤ 2099 := by
  unfold yearNumber? at h
  split at h
  · next a b c d _ =>
      split at h
      · next written =>
          obtain ⟨century, decade, last⟩ := written
          obtain ⟨tens, readTens⟩ := Option.isSome_iff_exists.mp decade
          obtain ⟨ones, readOnes⟩ := Option.isSome_iff_exists.mp last
          have := digit?_lt readTens
          have := digit?_lt readOnes
          have one : digit? '1' = some 1 := by decide
          have two : digit? '2' = some 2 := by decide
          have nine : digit? '9' = some 9 := by decide
          have zero : digit? '0' = some 0 := by decide
          obtain rfl := Option.some.inj h
          rcases century with ⟨rfl, rfl⟩ | ⟨rfl, rfl⟩ <;>
            simp [digitsValue, readTens, readOnes, one, two, nine, zero] <;> omega
      · exact absurd h (by simp)
  · exact absurd h (by simp)

theorem yearAhead?_bounds {words : List String} {year : Nat} (h : yearAhead? words = some year)
    : 1900 ≤ year ∧ year ≤ 2099 := by
  obtain ⟨word, _, named⟩ := Option.bind_eq_some_iff.mp h
  exact yearNumber?_bounds named

theorem firstYear?_bounds {phrases : List (List String)} {year : Nat}
    (h : firstYear? phrases = some year)
    : 1900 ≤ year ∧ year ≤ 2099 := by
  obtain ⟨word, _, named⟩ := List.exists_of_findSome?_eq_some h
  exact yearNumber?_bounds named

/-- What is read at the first place of a phrase is read at some place, by induction. -/
theorem exists_of_atFirst? {α : Type} {read : List String → Option α} {words : List String} {a : α}
    (h : atFirst? read words = some a)
    : ∃ rest, read rest = some a := by
  induction words with
  | nil => exact absurd h (by simp [atFirst?])
  | cons word rest ih =>
      rw [atFirst?] at h
      cases here : read (word :: rest) with
      | some b => exact ⟨_, here.trans (by simpa [here] using h)⟩
      | none => exact ih (by simpa [here] using h)

/-- What is found among phrases is read at some place of one. -/
theorem exists_of_findSome?_atFirst? {α : Type} {read : List String → Option α}
    {phrases : List (List String)} {a : α} (h : phrases.findSome? (atFirst? read) = some a)
    : ∃ rest, read rest = some a := by
  obtain ⟨phrase, _, found⟩ := List.exists_of_findSome?_eq_some h
  exact exists_of_atFirst? found

theorem firstWeek?_bounds {words : List String} {month : Nat} {year? : Option Nat}
    (h : firstWeek? words = some (month, year?))
    : (1 ≤ month ∧ month ≤ 12) ∧ ∀ year ∈ year?, 1900 ≤ year ∧ year ≤ 2099 := by
  unfold firstWeek? at h
  split at h
  · next rest =>
      split at h
      · exact absurd h (by simp)
      · obtain ⟨named, found, same⟩ := Option.map_eq_some_iff.mp h
        obtain ⟨rfl, rfl⟩ := Prod.mk.inj same
        exact ⟨monthNumber?_bounds found, fun year member => yearAhead?_bounds member⟩
  · exact absurd h (by simp)

theorem monthYear?_bounds {words : List String} {month year : Nat}
    (h : monthYear? words = some (month, year))
    : (1 ≤ month ∧ month ≤ 12) ∧ 1900 ≤ year ∧ year ≤ 2099 := by
  cases words with
  | nil => exact absurd h (by simp [monthYear?])
  | cons word rest =>
      obtain ⟨named, found, h⟩ := Option.bind_eq_some_iff.mp h
      obtain ⟨ahead, behind, h⟩ := Option.bind_eq_some_iff.mp h
      obtain ⟨rfl, rfl⟩ := Prod.mk.inj (Option.some.inj h)
      exact ⟨monthNumber?_bounds found, yearAhead?_bounds behind⟩

-----------------------------------------------------------------------------------------
-- Spans
-----------------------------------------------------------------------------------------

/-- Whether a question speaks of last month, which comes before all other date phrases. -/
def asksLastMonth (question : String) : Bool :=
  ((wording question).findSome? (atFirst? lastMonth?)).isSome

/-- The year of a first week lies in the calendar when the reference year does. -/
theorem firstWeek_year_bounds {year? : Option Nat} {phrases : List (List String)}
    {referenceYear : Int} (near : ∀ year ∈ year?, 1900 ≤ year ∧ year ≤ 2099)
    (reference : 1 ≤ referenceYear ∧ referenceYear ≤ 9999)
    : 1 ≤ (year? <|> firstYear? phrases).elim referenceYear Int.ofNat
      ∧ (year? <|> firstYear? phrases).elim referenceYear Int.ofNat ≤ 9999 := by
  cases year? with
  | some year =>
      have bounds := near year rfl
      change 1 ≤ (year : Int) ∧ (year : Int) ≤ 9999
      omega
  | none =>
      change 1 ≤ (firstYear? phrases).elim referenceYear Int.ofNat
        ∧ (firstYear? phrases).elim referenceYear Int.ofNat ≤ 9999
      cases found : firstYear? phrases with
      | none => exact reference
      | some year =>
          have bounds := firstYear?_bounds found
          change 1 ≤ (year : Int) ∧ (year : Int) ≤ 9999
          omega

/-- The date phrase of a question has its span, by the three kinds of phrases, unless it is last
month and there is no month before the one of the instant. -/
theorem exists_span_iff (question : String) (now : Instant) {referenceYear : Int}
    (reference : 1 ≤ referenceYear ∧ referenceYear ≤ 9999)
    : (∃ span, span? question now referenceYear = .ok span)
      ↔ (asksLastMonth question = true → ¬(now.date.year = 1 ∧ now.date.month = 1)) := by
  have mapped {e : Except CalendarError Span}
      : (∃ span, e.map some = .ok span) ↔ ∃ span, e = .ok span := by
    cases e <;> simp [Except.map]
  unfold span? asksLastMonth
  dsimp only
  cases (wording question).findSome? (atFirst? lastMonth?) with
  | some _ => simp only [mapped, Span.exists_previousMonth_iff]; simp
  | none =>
      refine iff_of_true ?_ (by simp)
      cases week : (wording question).findSome? (atFirst? firstWeek?) with
      | some found =>
          obtain ⟨month, year?⟩ := found
          obtain ⟨_, read⟩ := exists_of_findSome?_atFirst? week
          obtain ⟨hm, near⟩ := firstWeek?_bounds read
          refine mapped.mpr (Span.exists_days (by omega) (firstWeek_year_bounds near reference)
            (by decide) (by decide) ?_)
          exact Int.le_trans (by decide : (7 : Int) ≤ 28) (Int.ofNat_le.mpr (daysIn_ge _ _))
      | none =>
          cases named : (wording question).findSome? (atFirst? monthYear?) with
          | some found =>
              obtain ⟨month, year⟩ := found
              obtain ⟨_, read⟩ := exists_of_findSome?_atFirst? named
              obtain ⟨hm, hy⟩ := monthYear?_bounds read
              exact mapped.mpr (Span.exists_month (by omega) (by omega))
          | none => exact ⟨none, rfl⟩

end RideQuestions.Question
