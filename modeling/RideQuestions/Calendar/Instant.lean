import RideQuestions.Calendar.Date
import RideQuestions.Number.Binary64
import RideQuestions.Text.Digits

/-! Instants to the microsecond, without a zone, and their written forms.
-/

namespace RideQuestions.Calendar

open RideQuestions.Text RideQuestions.Number

/-- A time of day. -/
structure Clock where
  hour : Nat
  minute : Nat
  second : Nat
  microsecond : Nat
  hour_lt : hour < 24 := by decide
  minute_lt : minute < 60 := by decide
  second_lt : second < 60 := by decide
  microsecond_lt : microsecond < 1000000 := by decide
  deriving DecidableEq

def Clock.startOfDay : Clock :=
  { hour := 0, minute := 0, second := 0, microsecond := 0 }

/-- The last whole millisecond of a day. -/
def Clock.endOfDay : Clock :=
  { hour := 23, minute := 59, second := 59, microsecond := 999000 }

def Clock.of? (hour minute second microsecond : Nat) : Option Clock :=
  if h : hour < 24 ∧ minute < 60 ∧ second < 60 ∧ microsecond < 1000000 then
    some
      {
        hour, minute, second, microsecond,
        hour_lt := h.1,
        minute_lt := h.2.1,
        second_lt := h.2.2.1,
        microsecond_lt := h.2.2.2
      }
  else none

structure Instant where
  date : Date
  clock : Clock
  deriving DecidableEq

namespace Instant

/-- A number that grows with time: the fields of an instant in mixed radix. -/
def key (t : Instant) : Nat :=
  (((((t.date.year * 13 + t.date.month) * 32 + t.date.day) * 24 + t.clock.hour) * 60
    + t.clock.minute) * 60 + t.clock.second) * 1000000 + t.clock.microsecond

def le (s t : Instant) : Bool :=
  s.key ≤ t.key

/-- The instant `micros` microseconds after the beginning of 1970. -/
def ofEpoch (micros : Int) : Except CalendarError Instant := do
  let perDay : Int := 86400000000
  let date ← Date.ofOrdinal (719163 + micros.fdiv perDay)
  let rest := (micros.fmod perDay).toNat
  match Clock.of? (rest / 3600000000) (rest / 60000000 % 60) (rest / 1000000 % 60)
      (rest % 1000000) with
  | some clock => return { date, clock }
  | none => .error .dayOutOfRange

/-- Microseconds since the beginning of 1970 of a number of seconds. The part behind the point is
multiplied out as a double and a half microsecond goes to the even one. -/
def microsOfSeconds (seconds : Binary64) : Int :=
  let (num, den) := seconds.fraction
  let part := Binary64.ofRatio false (num % den) den
  let scaled := Binary64.ofRatio false (part.fraction.1 * 1000000) part.fraction.2
  signed seconds.negative (num / den * 1000000 + scaled.round.toNat)

/-- The form `year-month-dayThour:minute:second`, with six decimals unless they are zero. -/
def iso (t : Instant) : String :=
  let date := padded 4 t.date.year ++ "-" ++ padded 2 t.date.month ++ "-" ++ padded 2 t.date.day
  let time :=
    padded 2 t.clock.hour ++ ":" ++ padded 2 t.clock.minute ++ ":" ++ padded 2 t.clock.second
  let part := if t.clock.microsecond = 0 then "" else "." ++ padded 6 t.clock.microsecond
  date ++ "T" ++ time ++ part

/-- Reads digits filling a field, and the character behind it if one is expected. -/
private def field? (width : Nat) (mark : Option Char) (s : List Char)
    : Option (Nat × List Char) :=
  let digits := s.take width
  if digits.length = width && digits.all isPlainDigit then
    let value := digitsValue plainDigit? digits
    match mark, s.drop width with
    | none, rest => some (value, rest)
    | some c, d :: rest => if c = d then some (value, rest) else none
    | some _, [] => none
  else none

/-- The microseconds behind the point, given by one to six digits. -/
private def microseconds? : List Char → Option Nat
  | [] => some 0
  | '.' :: digits =>
      if digits.isEmpty || 6 < digits.length || !digits.all isPlainDigit then none
      else some (digitsValue plainDigit? digits * Nat.pow 10 (6 - digits.length))
  | _ => none

/-- Reads the form that `iso` writes. -/
def ofIso? (s : String) : Option Instant := do
  let (year, s) ← field? 4 (some '-') s.toList
  let (month, s) ← field? 2 (some '-') s
  let (day, s) ← field? 2 (some 'T') s
  let (hour, s) ← field? 2 (some ':') s
  let (minute, s) ← field? 2 (some ':') s
  let (second, s) ← field? 2 none s
  let clock ← Clock.of? hour minute second (← microseconds? s)
  let date ← (Date.of year month day).toOption
  return { date, clock }

/-- The timestamp literal of an instant: the year without padding, milliseconds rounded down. -/
def literal (t : Instant) : String :=
  toString t.date.year ++ "-" ++ padded 2 t.date.month ++ "-" ++ padded 2 t.date.day ++ " "
    ++ padded 2 t.clock.hour ++ ":" ++ padded 2 t.clock.minute ++ ":"
    ++ padded 2 t.clock.second ++ "." ++ padded 3 (t.clock.microsecond / 1000)

end Instant

end RideQuestions.Calendar
