import RideQuestions.Calendar.Zone

/-! Instants written by a pattern of `%` marks, in English. A mark that is not known stands as it
is.
-/

namespace RideQuestions.Calendar

open RideQuestions.Text

def monthNames : List String :=
  ["January", "February", "March", "April", "May", "June", "July", "August", "September",
   "October", "November", "December"]

def weekdayNames : List String :=
  ["Monday", "Tuesday", "Wednesday", "Thursday", "Friday", "Saturday", "Sunday"]

private def spaced (width value : Nat) : String :=
  let digits := toString value
  String.ofList (List.replicate (width - digits.length) ' ') ++ digits

private def short (name : String) : String :=
  String.ofList (name.toList.take 3)

/-- The hour on a dial of twelve. -/
def dialHour (hour : Nat) : Nat :=
  if hour % 12 = 0 then 12 else hour % 12

/-- Year and number of the week that a day belongs to, weeks beginning on Monday and belonging to
the year that their Thursday lies in. -/
def weekOf (d : Date) : Nat × Nat :=
  let day := d.dayOfYear
  let length := fun year => if isLeapYear year then 366 else 365
  let thursday := day + 3 - d.weekday
  if day + 3 < d.weekday + 1 then
    (d.year - 1, (day + length (d.year - 1) + 3 - d.weekday - 1) / 7 + 1)
  else if length d.year < thursday then (d.year + 1, 1)
  else (d.year, (thursday - 1) / 7 + 1)

namespace Instant

/-- The seconds from the beginning of 1970 to an instant. -/
def epochSeconds (t : Instant) : Int :=
  (Int.ofNat t.date.ordinal - 719163) * 86400
    + Int.ofNat (t.clock.hour * 3600 + t.clock.minute * 60 + t.clock.second)

private def dayMonthYear (t : Instant) : String :=
  padded 2 t.date.month ++ "/" ++ padded 2 t.date.day ++ "/" ++ padded 2 (t.date.year % 100)

private def time24 (t : Instant) : String :=
  padded 2 t.clock.hour ++ ":" ++ padded 2 t.clock.minute ++ ":" ++ padded 2 t.clock.second

private def half (t : Instant) : String :=
  if t.clock.hour < 12 then "AM" else "PM"

private def monthName (t : Instant) : String :=
  monthNames.getD (t.date.month - 1) ""

private def weekdayName (t : Instant) : String :=
  weekdayNames.getD t.date.weekday ""

/-- What a mark of a pattern stands for, at some offset from universal time. -/
def mark? (t : Instant) (offset : Offset) (c : Char) : Option String :=
  let sunday := (t.date.weekday + 1) % 7
  match c with
  | 'Y' => some (toString t.date.year)
  | 'C' => some (padded 2 (t.date.year / 100))
  | 'y' => some (padded 2 (t.date.year % 100))
  | 'm' => some (padded 2 t.date.month)
  | 'd' => some (padded 2 t.date.day)
  | 'e' => some (spaced 2 t.date.day)
  | 'j' => some (padded 3 t.date.dayOfYear)
  | 'H' => some (padded 2 t.clock.hour)
  | 'k' => some (spaced 2 t.clock.hour)
  | 'I' => some (padded 2 (dialHour t.clock.hour))
  | 'l' => some (spaced 2 (dialHour t.clock.hour))
  | 'M' => some (padded 2 t.clock.minute)
  | 'S' => some (padded 2 t.clock.second)
  | 'p' => some t.half
  | 'P' => some (if t.clock.hour < 12 then "am" else "pm")
  | 'b' => some (short t.monthName)
  | 'h' => some (short t.monthName)
  | 'B' => some t.monthName
  | 'a' => some (short t.weekdayName)
  | 'A' => some t.weekdayName
  | 'u' => some (toString (t.date.weekday + 1))
  | 'w' => some (toString sunday)
  | 'U' => some (padded 2 ((t.date.dayOfYear + 6 - sunday) / 7))
  | 'W' => some (padded 2 ((t.date.dayOfYear + 6 - t.date.weekday) / 7))
  | 'V' => some (padded 2 (weekOf t.date).2)
  | 'G' => some (toString (weekOf t.date).1)
  | 'g' => some (padded 2 ((weekOf t.date).1 % 100))
  | 'Z' => some offset.name
  | 'z' => some offset.hours
  | 's' => some (toString (t.epochSeconds - offset.seconds))
  | 'D' => some t.dayMonthYear
  | 'x' => some t.dayMonthYear
  | 'F' => some (s!"{t.date.year}-{padded 2 t.date.month}-{padded 2 t.date.day}")
  | 'T' => some t.time24
  | 'X' => some t.time24
  | 'R' => some (padded 2 t.clock.hour ++ ":" ++ padded 2 t.clock.minute)
  | 'r' =>
      some (padded 2 (dialHour t.clock.hour) ++ ":" ++ padded 2 t.clock.minute ++ ":"
        ++ padded 2 t.clock.second ++ " " ++ t.half)
  | 'c' =>
      some (short t.weekdayName ++ " " ++ short t.monthName ++ " " ++ spaced 2 t.date.day ++ " "
        ++ t.time24 ++ " " ++ toString t.date.year)
  | 'n' => some "\n"
  | 't' => some "\t"
  | '%' => some "%"
  | _ => none

/-- Writes the characters of a pattern, replacing its marks. -/
def writeBy (t : Instant) (offset : Offset) : List Char → List Char
  | '%' :: c :: rest =>
      match t.mark? offset c with
      | some text => text.toList ++ writeBy t offset rest
      | none => '%' :: c :: writeBy t offset rest
  | c :: rest => c :: writeBy t offset rest
  | [] => []

/-- An instant at some offset from universal time, written by a pattern. -/
def format (pattern : String) (t : Instant) (offset : Offset) : String :=
  String.ofList (t.writeBy offset pattern.toList)

end Instant

end RideQuestions.Calendar
