import RideQuestions.Calendar.Instant

/-! Spans of time with both ends included: any two instants in order, whole days, whole months.
-/

namespace RideQuestions.Calendar

structure Span where
  first : Instant
  last : Instant
  ordered : first.key ≤ last.key

namespace Span

/-- The span between two instants. -/
def between (first last : Instant) : Except CalendarError Span :=
  if h : first.key ≤ last.key then .ok ⟨first, last, h⟩ else .error .endPrecedesStart

/-- The span from the start of one day of a month to the end of another. -/
def days (year month firstDay lastDay : Int) : Except CalendarError Span := do
  let first ← Date.of year month firstDay
  let last ← Date.of year month lastDay
  between ⟨first, .startOfDay⟩ ⟨last, .endOfDay⟩

/-- A whole calendar month. -/
def month (year month : Int) : Except CalendarError Span :=
  days year month 1 (daysIn year.toNat month.toNat)

/-- The whole month before the one that an instant lies in. -/
def previousMonth (now : Instant) : Except CalendarError Span :=
  if now.date.month = 1 then
    if now.date.year = 1 then .error (.yearOutOfRange 0)
    else month (now.date.year - 1) 12
  else month now.date.year (now.date.month - 1)

/-- The timestamp literals of both ends. -/
def literals (s : Span) : String × String :=
  (s.first.literal, s.last.literal)

end Span

end RideQuestions.Calendar
