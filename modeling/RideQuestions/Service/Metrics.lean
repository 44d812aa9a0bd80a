import RideQuestions.Number.Binary64
import RideQuestions.Value

/-! Counters and timers by name. A counter only grows; a timer counts what it timed and, as long as
all durations were handed to it, knows their sum and the greatest of them.
-/

namespace RideQuestions

open Number

/-- The durations of a timer. -/
inductive Durations where
  | known (sum greatest : Binary64)
  /-- Some of them were taken from the clock and are not kept. -/
  | clocked

structure Timer where
  count : Nat := 0
  durations : Durations := .known (Binary64.zeroOf false) (Binary64.zeroOf false)

namespace Timer

/-- Adds a duration that was handed over. -/
def observe (t : Timer) (duration : Binary64) : Timer :=
  {
    count := t.count + 1,
    durations :=
      match t.durations with
      | .known sum greatest =>
          .known (sum.add duration) (if greatest.lt duration then duration else greatest)
      | .clocked => .clocked
  }

/-- Adds a duration taken from the clock. -/
def clock (t : Timer) : Timer :=
  { count := t.count + 1, durations := .clocked }

/-- The mean of some durations with a given sum; zero when there are none. -/
def mean (t : Timer) (sum : Binary64) : Binary64 :=
  if t.count = 0 then Binary64.zeroOf false else sum.divNat t.count

end Timer

/-- A counter was asked to go back. -/
inductive CounterError where
  | negativeAmount

def CounterError.message : CounterError → String
  | negativeAmount => "Counter can only be incremented by non-negative amounts"

structure Metrics where
  counters : List (String × Nat) := []
  timers : List (String × Timer) := []

namespace Metrics

/-- The value of a counter; zero for one that was never touched. -/
def counter (m : Metrics) (name : String) : Nat :=
  (m.counters.lookup name).getD 0

def timer (m : Metrics) (name : String) : Timer :=
  (m.timers.lookup name).getD {}

/-- Adds to a counter, which comes into being with its first use. -/
def count (m : Metrics) (name : String) (amount : Nat) : Metrics :=
  { m with counters := Value.put name (m.counter name + amount) m.counters }

/-- Adds an amount of either sign to a counter. A negative one is refused, but the counter exists
from then on. -/
def increment (m : Metrics) (name : String) (amount : Int) : Except CounterError Nat × Metrics :=
  if 0 ≤ amount then
    let m := m.count name amount.toNat
    (.ok (m.counter name), m)
  else (.error .negativeAmount, m.count name 0)

/-- A timer comes into being when something is about to be timed. -/
def withTimer (m : Metrics) (name : String) : Metrics :=
  { m with timers := Value.put name (m.timer name) m.timers }

def observe (m : Metrics) (name : String) (duration : Binary64) : Metrics :=
  { m with timers := Value.put name ((m.timer name).observe duration) m.timers }

/-- Counts something that was timed by the clock. -/
def clocked (m : Metrics) (name : String) : Metrics :=
  { m with timers := Value.put name (m.timer name).clock m.timers }

/-- Names with their values, in the order of the names. -/
def byName {α : Type} (entries : List (String × α)) : List (String × α) :=
  entries.mergeSort fun a b => decide (a.1 ≤ b.1)

/-- The name that calls of a function are tracked under: the one chosen for it, or else its own. -/
def trackedName (chosen : Option String) (component function : String) : String :=
  match chosen with
  | none => component ++ "." ++ function
  | some name => if name.isEmpty then component ++ "." ++ function else name

/-- Runs a call under a name: it is counted before it begins, its failure when it fails, and its
duration when it has ended either way. The call may use the metrics itself. -/
def track {ε α : Type} (name : String) (call : Metrics → Except ε α × Metrics) (m : Metrics)
    : Except ε α × Metrics :=
  let (result, m) := call ((m.count (name ++ ".calls") 1).withTimer (name ++ ".duration"))
  let m :=
    match result with
    | .ok _ => m
    | .error _ => m.count (name ++ ".errors") 1
  (result, m.clocked (name ++ ".duration"))

end Metrics

end RideQuestions
