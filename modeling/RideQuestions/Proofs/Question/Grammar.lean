import RideQuestions.Proofs.Calendar.Spans
import RideQuestions.Proofs.Text.Spelling
import RideQuestions.Question.DatePhrase

/-! The grammar of date phrases, in characters: what is said, where it is said first between
boundaries of words, and what time is meant by it.
-/

namespace RideQuestions.Question

open RideQuestions.Calendar RideQuestions.Text

-----------------------------------------------------------------------------------------
-- What is said
-----------------------------------------------------------------------------------------

/-- What may stand between two parts of a phrase: blanks, or an `of` with blanks on both sides. -/
inductive Gap : List Char → Prop where
  | blanks {b : List Char} (between : Blanks b) : Gap b
  | of {b b' : List Char} (before : Blanks b) (behind : Blanks b')
      : Gap (b ++ "of".toList ++ b')

/-- The name of a month. -/
def MonthSaid (said : List Char) (month : Nat) : Prop :=
  ∃ i, monthWords[i]? = some (String.ofList said) ∧ month = i + 1

/-- A year of four digits, the last two of any script. -/
inductive YearSaid : List Char → Nat → Prop where
  | nineteen {c d : Char} {tens ones : Nat} (decade : digit? c = some tens)
      (last : digit? d = some ones) : YearSaid ['1', '9', c, d] (1900 + 10 * tens + ones)
  | twenty {c d : Char} {tens ones : Nat} (decade : digit? c = some tens)
      (last : digit? d = some ones) : YearSaid ['2', '0', c, d] (2000 + 10 * tens + ones)

inductive LastMonthSaid : List Char → Unit → Prop where
  | intro {b : List Char} (between : Blanks b)
      : LastMonthSaid ("last".toList ++ b ++ "month".toList) ()

inductive FirstWeekSaid : List Char → Nat → Prop where
  | intro {b g m : List Char} {month : Nat} (between : Blanks b) (gap : Gap g)
      (named : MonthSaid m month)
      : FirstWeekSaid ("first".toList ++ b ++ ("week".toList ++ g ++ m)) month

inductive MonthYearSaid : List Char → Nat × Nat → Prop where
  | intro {m g y : List Char} {month year : Nat} (named : MonthSaid m month) (gap : Gap g)
      (written : YearSaid y year) : MonthYearSaid (m ++ g ++ y) (month, year)

-----------------------------------------------------------------------------------------
-- Where it is said
-----------------------------------------------------------------------------------------

/-- A word begins or ends between two parts of a text. -/
def Boundary (before behind : List Char) : Prop :=
  wordBehind before ≠ wordAhead behind

variable {α β : Type}

/-- A phrase of some kind stands in a text between boundaries of words. -/
structure Occurs (kind : List Char → α → Prop) (s before said behind : List Char) (a : α)
    : Prop where
  whole : s = before ++ said ++ behind
  spoken : kind said a
  opens : Boundary before (said ++ behind)
  closes : Boundary (before ++ said) behind

/-- No phrase of some kind stands in a text. -/
def Absent (kind : List Char → α → Prop) (s : List Char) : Prop :=
  ∀ before said behind a, ¬Occurs kind s before said behind a

/-- A phrase of some kind stands in a text, and none begins further left. -/
structure Leftmost (kind : List Char → α → Prop) (s before said behind : List Char) (a : α)
    : Prop where
  occurs : Occurs kind s before said behind a
  first : ∀ before' said' behind' a', Occurs kind s before' said' behind' a' →
    before.length ≤ before'.length

/-- A year is written right behind a phrase. -/
def YearBehind (behind : List Char) (year : Nat) : Prop :=
  ∃ g y rest, behind = g ++ y ++ rest ∧ Gap g ∧ YearSaid y year ∧ Boundary (g ++ y) rest

-----------------------------------------------------------------------------------------
-- What is meant
-----------------------------------------------------------------------------------------

/-- The year of a first week: the one that is written right behind the phrase, else the first one
that is written anywhere, else the reference year. -/
inductive WeekYear (s behind : List Char) (referenceYear : Int) : Int → Prop where
  | behind {year : Nat} (written : YearBehind behind year) : WeekYear s behind referenceYear year
  | anywhere {before said rest : List Char} {year : Nat} (unwritten : ∀ y, ¬YearBehind behind y)
      (first : Leftmost YearSaid s before said rest year) : WeekYear s behind referenceYear year
  | reference (unwritten : ∀ y, ¬YearBehind behind y) (yearless : Absent YearSaid s)
      : WeekYear s behind referenceYear referenceYear

/-- The time that a lower-case question means, at some instant and with some reference year. -/
inductive Meant (s : List Char) (now : Instant) (referenceYear : Int) : Option Span → Prop where
  | lastMonth {before said behind : List Char} {span : Span} {year month : Nat}
      (occurs : Occurs LastMonthSaid s before said behind ())
      (previous : 12 * year + month + 1 = 12 * now.date.year + now.date.month)
      (covers : span.Covers year month 1 (daysIn year month))
      : Meant s now referenceYear (some span)
  | firstWeek {before said behind : List Char} {span : Span} {year : Int} {month : Nat}
      (noLastMonth : Absent LastMonthSaid s)
      (first : Leftmost FirstWeekSaid s before said behind month)
      (dated : WeekYear s behind referenceYear year)
      (covers : span.Covers year month 1 7)
      : Meant s now referenceYear (some span)
  | month {before said behind : List Char} {span : Span} {year month : Nat}
      (noLastMonth : Absent LastMonthSaid s) (noFirstWeek : Absent FirstWeekSaid s)
      (first : Leftmost MonthYearSaid s before said behind (month, year))
      (covers : span.Covers year month 1 (daysIn year month))
      : Meant s now referenceYear (some span)
  | nothing (noLastMonth : Absent LastMonthSaid s) (noFirstWeek : Absent FirstWeekSaid s)
      (noMonth : Absent MonthYearSaid s) : Meant s now referenceYear none

end RideQuestions.Question
