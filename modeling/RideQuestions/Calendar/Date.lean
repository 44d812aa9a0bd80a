/-! Days of the proleptic Gregorian calendar, years 1 to 9999, and what can be wrong with a date.
-/

namespace RideQuestions.Calendar

inductive CalendarError where
  | yearOutOfRange (year : Int)
  /-- The year does not fit the 32 bits in which years are looked at. -/
  | yearTooWide (year : Int)
  | badMonth (month : Int)
  | dayOutOfRange
  | endPrecedesStart
  deriving DecidableEq

/-- Whether a whole number fits so many bits, of which one is for its sign. -/
def fitsBits (bits : Nat) (n : Int) : Bool :=
  let range := Int.ofNat (Nat.pow 2 (bits - 1))
  n < range && -range ≤ n

/-- What is wrong with a year that is none of the calendar. -/
def CalendarError.ofYear (year : Int) : CalendarError :=
  if fitsBits 32 year then .yearOutOfRange year else .yearTooWide year

def CalendarError.message : CalendarError → String
  | yearOutOfRange year => s!"year {year} is out of range"
  | yearTooWide year =>
      if !fitsBits 64 year then "Python int too large to convert to C long"
      else if 0 < year then "signed integer is greater than maximum"
      else "signed integer is less than minimum"
  | badMonth month => s!"bad month number {month}; must be 1-12"
  | dayOutOfRange => "day is out of range for month"
  | endPrecedesStart => "DateRange end precedes start"

def isLeapYear (year : Nat) : Bool :=
  year % 4 = 0 && (year % 100 ≠ 0 || year % 400 = 0)

/-- The number of days of a month, counted from 1. -/
def daysIn (year month : Nat) : Nat :=
  if month = 2 then (if isLeapYear year then 29 else 28)
  else if month = 4 ∨ month = 6 ∨ month = 9 ∨ month = 11 then 30
  else 31

/-- A day of the calendar. -/
structure Date where
  year : Nat
  month : Nat
  day : Nat
  year_pos : 1 ≤ year
  year_le : year ≤ 9999
  month_pos : 1 ≤ month
  month_le : month ≤ 12
  day_pos : 1 ≤ day
  day_le : day ≤ daysIn year month
  deriving DecidableEq

namespace Date

/-- The day with given numbers; a month is looked at before the year it belongs to. -/
def of (year month day : Int) : Except CalendarError Date :=
  if hm : 1 ≤ month ∧ month ≤ 12 then
    if hy : 1 ≤ year ∧ year ≤ 9999 then
      if hd : 1 ≤ day ∧ day ≤ daysIn year.toNat month.toNat then
        .ok
          {
            year := year.toNat,
            month := month.toNat,
            day := day.toNat,
            year_pos := by omega,
            year_le := by omega,
            month_pos := by omega,
            month_le := by omega,
            day_pos := by omega,
            day_le := by omega
          }
      else .error .dayOutOfRange
    else .error (.ofYear year)
  else .error (.badMonth month)

/-- The days before a year, counted from the first day of year 1. -/
def daysBeforeYear (year : Nat) : Nat :=
  (year - 1) * 365 + (year - 1) / 4 - (year - 1) / 100 + (year - 1) / 400

/-- The days of a year before a month. -/
def daysBeforeMonth (year month : Nat) : Nat :=
  ((List.range month).drop 1).foldl (fun days m => days + daysIn year m) 0

/-- The place of a day in its year, from 1. -/
def dayOfYear (d : Date) : Nat :=
  daysBeforeMonth d.year d.month + d.day

/-- The place of a day in the calendar, from 1. -/
def ordinal (d : Date) : Nat :=
  daysBeforeYear d.year + d.dayOfYear

/-- The day of the week, from Monday as 0. -/
def weekday (d : Date) : Nat :=
  (d.ordinal + 6) % 7

end Date

/-- Finds the year of an ordinal among `fuel` years from a given one, with the days left in it. -/
def yearOfOrdinal : Nat → Nat → Nat → Nat × Nat
  | 0, year, days => (year, days)
  | fuel + 1, year, days =>
      let length := if isLeapYear year then 366 else 365
      if days ≤ length then (year, days) else yearOfOrdinal fuel (year + 1) (days - length)

/-- Finds the month of a day of the year among `fuel` months from a given one. -/
def monthOfDay : Nat → Nat → Nat → Nat → Nat × Nat
  | 0, _, month, days => (month, days)
  | fuel + 1, year, month, days =>
      let length := daysIn year month
      if days ≤ length then (month, days) else monthOfDay fuel year (month + 1) (days - length)

/-- The day at a place of the calendar, counted from 1. Whole cycles of four hundred years are
taken off first. -/
def Date.ofOrdinal (ordinal : Int) : Except CalendarError Date :=
  if ordinal < 1 then .error (.yearOutOfRange 0)
  else
    let before := ordinal.toNat - 1
    let cycle := before / 146097
    let (year, days) := yearOfOrdinal 400 (400 * cycle + 1) (before % 146097 + 1)
    let (month, day) := monthOfDay 12 year 1 days
    Date.of year month day

end RideQuestions.Calendar
