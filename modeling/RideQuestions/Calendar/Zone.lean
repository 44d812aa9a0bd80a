import RideQuestions.Calendar.Instant

/-! Local time. A zone tells how far its clocks are ahead of universal time at each second. Clocks
that are set back show some hours twice, which cannot be told from what they show.
-/

namespace RideQuestions.Calendar

open RideQuestions.Text

/-- How many seconds clocks are ahead of universal time, and what their time is called. -/
structure Offset where
  seconds : Int
  name : String

namespace Offset

def utc : Offset := { seconds := 0, name := "UTC" }

/-- The hours and minutes of an offset, with its sign. -/
def hours (o : Offset) : String :=
  let minutes := o.seconds.natAbs / 60
  (if o.seconds < 0 then "-" else "+") ++ padded 4 (minutes / 60 * 100 + minutes % 60)

end Offset

structure Zone where
  /-- The offset at a second since the beginning of 1970. -/
  offset : Int → Offset

namespace Zone

def utc : Zone := { offset := fun _ => .utc }

/-- How many seconds clocks are ahead, `micros` microseconds after the beginning of 1970. -/
def ahead (zone : Zone) (micros : Int) : Int :=
  (zone.offset (micros.fdiv 1000000)).seconds

/-- What clocks show `micros` microseconds after the beginning of 1970. -/
def instant (zone : Zone) (micros : Int) : Except CalendarError Instant :=
  Instant.ofEpoch (micros + zone.ahead micros * 1000000)

/-- What clocks show when it is looked up whether they show it twice. For that the day before has to
lie in the calendar as well, and if clocks were set back since then, so has the hour they repeat. -/
def lookUp (zone : Zone) (micros : Int) : Except CalendarError Instant := do
  let shown ← zone.instant micros
  let dayBefore := micros - 86400000000
  let _ ← zone.instant dayBefore
  let gained := zone.ahead micros - zone.ahead dayBefore
  if gained < 0 then
    let _ ← zone.instant (micros + gained * 1000000)
  return shown

end Zone

end RideQuestions.Calendar
