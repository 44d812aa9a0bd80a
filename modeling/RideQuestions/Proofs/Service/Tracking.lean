import RideQuestions.Proofs.Value.Entries
import RideQuestions.Service.Metrics

/-! Calls that are tracked under names. Functions may call one another to any depth, catch what goes
wrong inside, and be under way at the same time. Whatever the order of their steps, the books of
every name hold each call once, and callers get what the functions themselves give.
-/

namespace RideQuestions.Tracking

open Number

-----------------------------------------------------------------------------------------
-- What functions do
-----------------------------------------------------------------------------------------

/-- A use of a metric by its name, past all tracking. -/
inductive Use where
  | increment (name : String) (amount : Int)
  | withTimer (name : String)
  | observe (name : String) (duration : Binary64)
  | clocked (name : String)

namespace Use

def apply : Use → Metrics → Metrics
  | increment name amount, m => (m.increment name amount).2
  | withTimer name, m => m.withTimer name
  | observe name duration, m => m.observe name duration
  | clocked name, m => m.clocked name

/-- Holds of a use of one of the metrics that calls under a name are tracked with. -/
def Touches (tracked : String) : Use → Prop
  | increment name _ => name = tracked ++ ".calls" ∨ name = tracked ++ ".errors"
  | withTimer name => name = tracked ++ ".duration"
  | observe name _ => name = tracked ++ ".duration"
  | clocked name => name = tracked ++ ".duration"

end Use

/-- What a function does as far as metrics go: it ends with a result, uses a metric, or calls a
function that is tracked under a name and goes on with what the call gives. -/
inductive Program (ε α : Type) where
  | done (result : Except ε α)
  | touch (use : Use) (rest : Program ε α)
  | call (name : String) (body : Program ε α) (rest : Except ε α → Program ε α)

namespace Program

variable {ε α : Type}

/-- What a function gives when nothing is tracked. -/
def outcome : Program ε α → Except ε α
  | done result => result
  | touch _ rest => rest.outcome
  | call _ body rest => (rest body.outcome).outcome

/-- The calls that are made, outer ones before those inside them, each by its name and with what the
called function gives. -/
def calls : Program ε α → List (String × Except ε α)
  | done _ => []
  | touch _ rest => rest.calls
  | call name body rest => (name, body.outcome) :: body.calls ++ (rest body.outcome).calls

/-- The uses that are made of metrics past all tracking. -/
def uses : Program ε α → List Use
  | done _ => []
  | touch use rest => use :: rest.uses
  | call _ body rest => body.uses ++ (rest body.outcome).uses

/-- Runs a program without a break, with every call tracked. -/
def run : Program ε α → Metrics → Except ε α × Metrics
  | done result, m => (result, m)
  | touch use rest, m => rest.run (use.apply m)
  | call name body rest, m =>
      let (result, m) := m.track name body.run
      (rest result).run m

end Program

-----------------------------------------------------------------------------------------
-- Deeds
-----------------------------------------------------------------------------------------

/-- What is done to metrics in one go. -/
inductive Deed where
  /-- A tracked call begins. -/
  | enter (name : String)
  | touch (use : Use)
  /-- A tracked call ends, well or not. -/
  | leave (name : String) (failed : Bool)

/-- Whether a result is an error. -/
def failed {ε α : Type} : Except ε α → Bool
  | .ok _ => false
  | .error _ => true

namespace Deed

def apply : Deed → Metrics → Metrics
  | enter name, m => (m.count (name ++ ".calls") 1).withTimer (name ++ ".duration")
  | touch use, m => use.apply m
  | leave name true, m => (m.count (name ++ ".errors") 1).clocked (name ++ ".duration")
  | leave name false, m => m.clocked (name ++ ".duration")

end Deed

/-- Metrics after some deeds. -/
def after (deeds : List Deed) (m : Metrics) : Metrics :=
  deeds.foldl (fun m deed => deed.apply m) m

theorem after_append (first second : List Deed) (m : Metrics)
    : after (first ++ second) m = after second (after first m) :=
  List.foldl_append

variable {ε α : Type}

/-- Tracking does one deed before a call and one after it, and gives what the call gives. -/
theorem track_eq (name : String) (call : Metrics → Except ε α × Metrics) (m : Metrics)
    : m.track name call
      = ((call ((Deed.enter name).apply m)).1,
          (Deed.leave name (failed (call ((Deed.enter name).apply m)).1)).apply
            (call ((Deed.enter name).apply m)).2) := by
  unfold Metrics.track Deed.apply
  cases made : call ((m.count (name ++ ".calls") 1).withTimer (name ++ ".duration")) with
  | mk result m => cases result <;> rfl

/-- The deeds of a program in the order in which they are done. -/
def Program.deeds : Program ε α → List Deed
  | done _ => []
  | touch use rest => .touch use :: rest.deeds
  | call name body rest =>
      .enter name :: body.deeds ++ .leave name (failed body.outcome) :: (rest body.outcome).deeds

/-- A program that runs without a break does its deeds and gives what it gives untracked, by
induction on the program. -/
theorem Program.run_eq (p : Program ε α) (m : Metrics)
    : p.run m = (p.outcome, after p.deeds m) := by
  induction p generalizing m with
  | done result => rfl
  | touch use rest ih => exact ih (use.apply m)
  | call name body rest ihBody ihRest =>
      rw [run, track_eq, ihBody]
      dsimp only
      rw [ihRest, outcome, deeds, after_append]
      rfl

-----------------------------------------------------------------------------------------
-- The books of one name
-----------------------------------------------------------------------------------------

/-- A number as the metrics have it: what never happened is not there. -/
def recorded (n : Nat) : Option Nat :=
  if n = 0 then none else some n

theorem getD_recorded (n : Nat)
    : (recorded n).getD 0 = n := by
  cases n <;> rfl

/-- How often something was timed, if there is a timer for it. -/
def timed (name : String) (m : Metrics) : Option Nat :=
  (m.timers.lookup name).map Timer.count

/-- What a timer shows when so many calls have begun and ended. It is there as soon as one has. -/
def ticked (begun ended : Nat) : Option Nat :=
  if begun + ended = 0 then none else some ended

theorem getD_ticked (begun ended : Nat)
    : (ticked begun ended).getD 0 = ended := by
  unfold ticked
  split <;> simp
  omega

/-- When as many calls have ended as have begun, a timer shows what a counter would. -/
theorem ticked_self (n : Nat)
    : ticked n n = recorded n := by
  cases n <;> simp [ticked, recorded]

section Metrics

variable {m : Metrics} {name asked : String} {n begun ended : Nat}

theorem lookup_count_self (before : m.counters.lookup name = recorded n)
    : (m.count name 1).counters.lookup name = recorded (n + 1) := by
  rw [Metrics.count, Value.lookup_put, if_pos rfl, Metrics.counter, before, getD_recorded]
  rfl

theorem lookup_count_of_ne (other : asked ≠ name) (amount : Nat)
    : (m.count name amount).counters.lookup asked = m.counters.lookup asked := by
  rw [Metrics.count, Value.lookup_put, if_neg other]

theorem lookup_increment_of_ne (other : asked ≠ name) (amount : Int)
    : (m.increment name amount).2.counters.lookup asked = m.counters.lookup asked := by
  unfold Metrics.increment
  split
  · exact lookup_count_of_ne other amount.toNat
  · exact lookup_count_of_ne other 0

theorem timers_increment (amount : Int)
    : (m.increment name amount).2.timers = m.timers := by
  unfold Metrics.increment
  split <;> rfl

theorem count_timer
    : (m.timer name).count = (timed name m).getD 0 := by
  unfold timed Metrics.timer
  cases m.timers.lookup name <;> rfl

theorem timed_withTimer_self (before : timed name m = ticked begun ended)
    : timed name (m.withTimer name) = ticked (begun + 1) ended := by
  rw [timed, Metrics.withTimer, Value.lookup_put, if_pos rfl, Option.map_some, count_timer, before,
    getD_ticked, ticked, if_neg (by omega)]

theorem timed_clocked_self (before : timed name m = ticked begun ended)
    : timed name (m.clocked name) = ticked begun (ended + 1) := by
  rw [timed, Metrics.clocked, Value.lookup_put, if_pos rfl, Option.map_some, Timer.clock,
    count_timer, before, getD_ticked, ticked, if_neg (by omega)]

theorem timed_put_of_ne (other : asked ≠ name) (timer : Timer)
    : timed asked { m with timers := Value.put name timer m.timers } = timed asked m := by
  rw [timed, Value.lookup_put, if_neg other, timed]

end Metrics

/-- The metrics of a name hold so many calls begun, ended and failed. -/
structure Books (name : String) (m : Metrics) (begun ended failed : Nat) : Prop where
  calls : m.counters.lookup (name ++ ".calls") = recorded begun
  durations : timed (name ++ ".duration") m = ticked begun ended
  errors : m.counters.lookup (name ++ ".errors") = recorded failed

namespace Deed

def begins (name : String) : Deed → Bool
  | enter entered => entered = name
  | _ => false

def ends (name : String) : Deed → Bool
  | leave left _ => left = name
  | _ => false

def fails (name : String) : Deed → Bool
  | leave left failed => left = name && failed
  | _ => false

/-- Holds of a deed that is no use of a metric that calls under a name are tracked with. -/
def Clear (name : String) : Deed → Prop
  | touch use => ¬ use.Touches name
  | _ => True

end Deed

/-- Metrics of one kind have different names for calls of different names. -/
theorem append_ne_append {name used : String} (differ : used ≠ name) (kind : String)
    : name ++ kind ≠ used ++ kind :=
  fun both => differ ((String.append_left_inj _).mp both).symm

/-- Metrics of different kinds have different names. -/
theorem calls_ne_errors (name other : String)
    : name ++ ".calls" ≠ other ++ ".errors" := by
  intro same
  have letters := congrArg String.toList same
  rw [String.toList_append, String.toList_append] at letters
  have calls : ".calls".toList <:+ other.toList ++ ".errors".toList := ⟨_, letters⟩
  have short := List.suffix_of_suffix_length_le calls (List.suffix_append _ _) (by decide)
  exact absurd short (by decide)

section Books

variable {name : String} {m : Metrics} {begun ended failed : Nat}

/-- Counting one of a kind changes the counter of its name only. -/
theorem lookup_count_kind {kind : String} {n : Nat}
    (before : m.counters.lookup (name ++ kind) = recorded n) (used : String)
    : (m.count (used ++ kind) 1).counters.lookup (name ++ kind)
      = recorded (n + if used = name then 1 else 0) := by
  by_cases same : used = name
  · rw [if_pos same, same]
    exact lookup_count_self before
  · rw [if_neg same]
    exact (lookup_count_of_ne (append_ne_append same kind) 1).trans before

theorem Books.enter (h : Books name m begun ended failed) (entered : String)
    : Books name ((Deed.enter entered).apply m) (begun + if entered = name then 1 else 0) ended
        failed := by
  refine ⟨lookup_count_kind h.calls entered, ?_, ?_⟩
  · by_cases same : entered = name
    · rw [if_pos same, Deed.apply, same]
      exact timed_withTimer_self h.durations
    · rw [if_neg same]
      exact (timed_put_of_ne (append_ne_append same ".duration") _).trans h.durations
  · exact (lookup_count_of_ne (calls_ne_errors entered name).symm 1).trans h.errors

theorem Books.touch (h : Books name m begun ended failed) {use : Use} (clear : ¬ use.Touches name)
    : Books name (use.apply m) begun ended failed := by
  cases use with
  | increment used amount =>
      obtain ⟨noCalls, noErrors⟩ := not_or.mp clear
      refine ⟨?_, ?_, ?_⟩
      · exact (lookup_increment_of_ne (Ne.symm noCalls) amount).trans h.calls
      · rw [timed, Use.apply, timers_increment]
        exact h.durations
      · exact (lookup_increment_of_ne (Ne.symm noErrors) amount).trans h.errors
  | withTimer used =>
      exact ⟨h.calls, (timed_put_of_ne (Ne.symm clear) _).trans h.durations, h.errors⟩
  | observe used duration =>
      exact ⟨h.calls, (timed_put_of_ne (Ne.symm clear) _).trans h.durations, h.errors⟩
  | clocked used =>
      exact ⟨h.calls, (timed_put_of_ne (Ne.symm clear) _).trans h.durations, h.errors⟩

theorem Books.clock (h : Books name m begun ended failed) (left : String)
    : Books name (m.clocked (left ++ ".duration")) begun (ended + if left = name then 1 else 0)
        failed := by
  refine ⟨h.calls, ?_, h.errors⟩
  by_cases same : left = name
  · rw [if_pos same, same]
    exact timed_clocked_self h.durations
  · rw [if_neg same]
    exact (timed_put_of_ne (append_ne_append same ".duration") _).trans h.durations

theorem Books.fail (h : Books name m begun ended failed) (left : String)
    : Books name (m.count (left ++ ".errors") 1) begun ended
        (failed + if left = name then 1 else 0) := by
  refine ⟨?_, h.durations, lookup_count_kind h.errors left⟩
  exact (lookup_count_of_ne (calls_ne_errors name left) 1).trans h.calls

/-- One deed goes into the books as what it is. -/
theorem Books.apply (h : Books name m begun ended failed) {deed : Deed} (clear : deed.Clear name)
    : Books name (deed.apply m) (begun + if deed.begins name then 1 else 0)
        (ended + if deed.ends name then 1 else 0) (failed + if deed.fails name then 1 else 0) := by
  cases deed with
  | enter entered => simpa [Deed.begins, Deed.ends, Deed.fails] using h.enter entered
  | touch use => exact h.touch clear
  | leave left failed =>
      cases failed with
      | false => simpa [Deed.begins, Deed.ends, Deed.fails, Deed.apply] using h.clock left
      | true =>
        simpa [Deed.begins, Deed.ends, Deed.fails, Deed.apply] using (h.fail left).clock left

/-- The books hold the number of deeds of each kind, by induction on the deeds. -/
theorem Books.after (h : Books name m begun ended failed) {deeds : List Deed}
    (clear : ∀ deed ∈ deeds, deed.Clear name)
    : Books name (after deeds m) (begun + deeds.countP (Deed.begins name))
        (ended + deeds.countP (Deed.ends name)) (failed + deeds.countP (Deed.fails name)) := by
  induction deeds generalizing m begun ended failed with
  | nil => exact h
  | cons deed rest ih =>
      obtain ⟨first, others⟩ := List.forall_mem_cons.mp clear
      have later := ih (h.apply first) others
      simp only [List.countP_cons, Nat.add_comm (List.countP _ rest), ← Nat.add_assoc]
      exact later

/-- Metrics that were never used have empty books. -/
theorem books_new (name : String)
    : Books name {} 0 0 0 :=
  ⟨rfl, rfl, rfl⟩

end Books

/-- The deeds of a program count its calls: as many as there are begin and end, and as many as give
an error fail, by induction on the program. -/
theorem Program.countP_deeds (p : Program ε α) (name : String)
    : p.deeds.countP (Deed.begins name) = p.calls.countP (·.1 = name)
      ∧ p.deeds.countP (Deed.ends name) = p.calls.countP (·.1 = name)
      ∧ p.deeds.countP (Deed.fails name)
          = p.calls.countP fun call => call.1 = name && failed call.2 := by
  induction p with
  | done result => exact ⟨rfl, rfl, rfl⟩
  | touch use rest ih => exact ih
  | call called body rest ihBody ihRest =>
      obtain ⟨bodyBegins, bodyEnds, bodyFails⟩ := ihBody
      obtain ⟨restBegins, restEnds, restFails⟩ := ihRest body.outcome
      simp only [deeds, calls, List.countP_append, List.countP_cons, bodyBegins, bodyEnds,
        bodyFails, restBegins, restEnds, restFails, Deed.begins, Deed.ends, Deed.fails,
        Bool.false_eq_true, decide_eq_true_eq, Bool.and_eq_true, if_false, Nat.add_zero]
      refine ⟨trivial, ?_, ?_⟩
      · omega
      · omega

/-- A program whose uses of metrics leave those of a name alone has no other deeds that touch
them, by induction on the program. -/
theorem Program.clear_deeds {p : Program ε α} {name : String}
    (apart : ∀ use ∈ p.uses, ¬ use.Touches name)
    : ∀ deed ∈ p.deeds, deed.Clear name := by
  induction p with
  | done result => exact nofun
  | touch use rest ih =>
      obtain ⟨first, others⟩ := List.forall_mem_cons.mp apart
      exact List.forall_mem_cons.mpr ⟨first, ih others⟩
  | call called body rest ihBody ihRest =>
      obtain ⟨inside, behind⟩ := List.forall_mem_append.mp apart
      simp only [deeds, List.forall_mem_append, List.forall_mem_cons]
      exact ⟨⟨trivial, ihBody inside⟩, trivial, ihRest body.outcome behind⟩

-----------------------------------------------------------------------------------------
-- Programs under way
-----------------------------------------------------------------------------------------

/-- A program under way: what is still to be done of the call that it is in, and the calls around
that one, the inner ones first, each with how its caller goes on. -/
structure Task (ε α : Type) where
  program : Program ε α
  rest : Program ε α
  callers : List (String × (Except ε α → Program ε α)) := []

namespace Task

/-- What a task gave, if it is at its end. -/
def result? (t : Task ε α) : Option (Except ε α) :=
  match t.rest, t.callers with
  | .done result, [] => some result
  | _, _ => none

/-- Lets a task do its next step: it goes into a call, out of one, or uses a metric. -/
def step (t : Task ε α) (m : Metrics) : Task ε α × Metrics :=
  match t.rest, t.callers with
  | .done _, [] => (t, m)
  | .done result, (name, goOn) :: callers =>
      ({ t with rest := goOn result, callers }, (Deed.leave name (failed result)).apply m)
  | .touch use rest, _ => ({ t with rest }, use.apply m)
  | .call name body goOn, callers =>
      ({ t with rest := body, callers := (name, goOn) :: callers }, (Deed.enter name).apply m)

/-- The deeds of callers that are given a result. -/
def deedsBehind : Except ε α → List (String × (Except ε α → Program ε α)) → List Deed
  | _, [] => []
  | result, (name, goOn) :: callers =>
      .leave name (failed result) :: (goOn result).deeds
        ++ deedsBehind (goOn result).outcome callers

/-- What callers that are given a result give in the end. -/
def outcomeBehind : Except ε α → List (String × (Except ε α → Program ε α)) → Except ε α
  | result, [] => result
  | result, (_, goOn) :: callers => outcomeBehind (goOn result).outcome callers

/-- The deeds that a task still has to do. -/
def remaining (t : Task ε α) : List Deed :=
  t.rest.deeds ++ deedsBehind t.rest.outcome t.callers

/-- Holds of a task that will give what its program gives untracked. -/
def OnTrack (t : Task ε α) : Prop :=
  outcomeBehind t.rest.outcome t.callers = t.program.outcome

/-- A task at its end has nothing more to do, and gave what its program gives untracked. -/
theorem at_end {t : Task ε α} {result : Except ε α} (ended : t.result? = some result)
    : t.remaining = [] ∧ (t.OnTrack → result = t.program.outcome) := by
  obtain ⟨program, rest, callers⟩ := t
  cases rest with
  | done given =>
      cases callers with
      | nil =>
          obtain rfl := Option.some.inj ended
          exact ⟨rfl, fun h => h⟩
      | cons caller callers => exact absurd ended (by simp [result?])
  | touch use rest => exact absurd ended (by simp [result?])
  | call name body goOn => exact absurd ended (by simp [result?])

/-- A step of a task does the first deed that remains, unless the task is at its end, and changes
nothing about what the task will give. -/
theorem step_spec (t : Task ε α) (m : Metrics)
    : (t.step m).1.program = t.program ∧ ((t.step m).1.OnTrack ↔ t.OnTrack)
      ∧ ∃ deeds, t.remaining = deeds ++ (t.step m).1.remaining ∧ (t.step m).2 = after deeds m := by
  obtain ⟨program, rest, callers⟩ := t
  cases rest with
  | done result =>
      cases callers with
      | nil => exact ⟨rfl, Iff.rfl, [], rfl, rfl⟩
      | cons caller callers =>
          obtain ⟨name, goOn⟩ := caller
          exact ⟨rfl, Iff.rfl, [.leave name (failed result)], rfl, rfl⟩
  | touch use rest => exact ⟨rfl, Iff.rfl, [.touch use], rfl, rfl⟩
  | call name body goOn =>
      refine ⟨rfl, Iff.rfl, [.enter name], ?_, rfl⟩
      simp [remaining, Program.deeds, deedsBehind, step, Program.outcome]

end Task

-----------------------------------------------------------------------------------------
-- Many programs
-----------------------------------------------------------------------------------------

/-- The metrics, with all programs that were started since they were last reset. -/
structure Workload (ε α : Type) where
  metrics : Metrics := {}
  tasks : List (Task ε α) := []

namespace Workload

/-- The calls of all programs. -/
def calls (w : Workload ε α) : List (String × Except ε α) :=
  w.tasks.flatMap (·.program.calls)

/-- The uses that all programs make of metrics past tracking. -/
def uses (w : Workload ε α) : List Use :=
  w.tasks.flatMap (·.program.uses)

/-- Holds when every program is at its end. -/
def Quiet (w : Workload ε α) : Prop :=
  ∀ t ∈ w.tasks, t.result?.isSome = true

/-- What can have happened. A program runs through without a break, or it is begun and takes its
steps between those of others; the metrics are reset only when no program is under way. -/
inductive Reachable : Workload ε α → Prop where
  | new : Reachable {}
  | run {w : Workload ε α} (h : Reachable w) (p : Program ε α)
    : Reachable
        {
          metrics := (p.run w.metrics).2,
          tasks := w.tasks ++ [{ program := p, rest := .done (p.run w.metrics).1 }]
        }
  | begin {w : Workload ε α} (h : Reachable w) (p : Program ε α)
    : Reachable { w with tasks := w.tasks ++ [{ program := p, rest := p }] }
  | step {m : Metrics} (before behind : List (Task ε α)) {t : Task ε α}
    (h : Reachable ⟨m, before ++ t :: behind⟩)
    : Reachable ⟨(t.step m).2, before ++ (t.step m).1 :: behind⟩
  | reset {w : Workload ε α} (h : Reachable w) (quiet : w.Quiet)
    : Reachable {}

/-- The metrics come from deeds that make up, with those that remain, all deeds of the programs
since the last reset; and every program will give what it gives untracked. -/
structure Accounted (w : Workload ε α) : Prop where
  deeds
    : ∃ performed, w.metrics = after performed {}
        ∧ (performed ++ w.tasks.flatMap Task.remaining).Perm
            (w.tasks.flatMap fun t => t.program.deeds)
  onTrack : ∀ t ∈ w.tasks, t.OnTrack

theorem Accounted.run {w : Workload ε α} (h : w.Accounted) (p : Program ε α)
    : Accounted
        {
          metrics := (p.run w.metrics).2,
          tasks := w.tasks ++ [{ program := p, rest := .done (p.run w.metrics).1 }]
        } := by
  obtain ⟨performed, metrics, all⟩ := h.deeds
  rw [p.run_eq]
  refine ⟨⟨performed ++ p.deeds, ?_, ?_⟩, ?_⟩
  · rw [after_append, ← metrics]
  · have order : ((performed ++ p.deeds) ++ w.tasks.flatMap Task.remaining).Perm
        ((performed ++ w.tasks.flatMap Task.remaining) ++ p.deeds) := by
      rw [List.append_assoc, List.append_assoc]
      exact List.perm_append_comm.append_left performed
    simpa [Task.remaining, Task.deedsBehind, Program.deeds] using
      order.trans (all.append_right p.deeds)
  · exact List.forall_mem_append.mpr ⟨h.onTrack, List.forall_mem_singleton.mpr rfl⟩

theorem Accounted.begin {w : Workload ε α} (h : w.Accounted) (p : Program ε α)
    : Accounted { w with tasks := w.tasks ++ [{ program := p, rest := p }] } := by
  obtain ⟨performed, metrics, all⟩ := h.deeds
  refine ⟨⟨performed, metrics, ?_⟩, ?_⟩
  · simpa [Task.remaining, Task.deedsBehind] using all.append_right p.deeds
  · exact List.forall_mem_append.mpr ⟨h.onTrack, List.forall_mem_singleton.mpr rfl⟩

theorem Accounted.step {m : Metrics} {before behind : List (Task ε α)} {t : Task ε α}
    (h : Accounted ⟨m, before ++ t :: behind⟩)
    : Accounted ⟨(t.step m).2, before ++ (t.step m).1 :: behind⟩ := by
  obtain ⟨performed, metrics, all⟩ := h.deeds
  obtain ⟨program, onTrack, deeds, remaining, stepped⟩ := t.step_spec m
  refine ⟨⟨performed ++ deeds, ?_, ?_⟩, ?_⟩
  · dsimp only at metrics ⊢
    rw [after_append, ← metrics, stepped]
  · simp only [List.flatMap_append, List.flatMap_cons, remaining, program] at all ⊢
    refine List.Perm.trans ?_ all
    rw [List.append_assoc, List.append_assoc]
    exact (List.perm_append_comm_assoc deeds _ _).append_left performed
  · have each := h.onTrack
    simp only [List.forall_mem_append, List.forall_mem_cons] at each ⊢
    exact ⟨each.1, onTrack.mpr each.2.1, each.2.2⟩

/-- Every workload that can have come about is accounted for, by induction on what happened. -/
theorem Reachable.accounted {w : Workload ε α} (h : w.Reachable)
    : w.Accounted := by
  induction h with
  | new => exact ⟨⟨[], rfl, .nil⟩, nofun⟩
  | run _ p ih => exact ih.run p
  | begin _ p ih => exact ih.begin p
  | step _ _ _ ih => exact ih.step
  | reset _ _ _ => exact ⟨⟨[], rfl, .nil⟩, nofun⟩

/-- What counts as much among the deeds of every program as among its calls does so among all. -/
theorem countP_deeds (w : Workload ε α) {p : Deed → Bool} {q : String × Except ε α → Bool}
    (each : ∀ program : Program ε α, program.deeds.countP p = program.calls.countP q)
    : (w.tasks.flatMap fun t => t.program.deeds).countP p = w.calls.countP q := by
  rw [calls, List.countP_flatMap, List.countP_flatMap]
  exact congrArg List.sum (List.map_congr_left fun t _ => each t.program)

/-- When all deeds are done, they are those of the programs, in some order. -/
theorem Accounted.performed {w : Workload ε α} (h : w.Accounted) (quiet : w.Quiet)
    : ∃ performed, w.metrics = after performed {}
        ∧ performed.Perm (w.tasks.flatMap fun t => t.program.deeds) := by
  obtain ⟨performed, metrics, all⟩ := h.deeds
  have idle : w.tasks.flatMap Task.remaining = [] := by
    apply List.flatMap_eq_nil_iff.mpr
    intro t member
    obtain ⟨result, ended⟩ := Option.isSome_iff_exists.mp (quiet t member)
    exact (Task.at_end ended).1
  rw [idle, List.append_nil] at all
  exact ⟨performed, metrics, all⟩

/-- Tracking keeps the books of every name and changes no result. Whatever programs ran since the
last reset, through without a break or between one another, once all are at their end each gave
what its functions give untracked. And for every name whose metrics they do not use otherwise, as
many calls are counted and as many durations taken as there were calls of that name, and as many
errors as there were calls whose function gave one; a number that would be zero is not there. -/
theorem Reachable.tracked {w : Workload ε α} (h : w.Reachable) (quiet : w.Quiet)
    : (∀ t ∈ w.tasks, t.result? = some t.program.outcome)
      ∧ ∀ name, (∀ use ∈ w.uses, ¬ use.Touches name) →
          w.metrics.counters.lookup (name ++ ".calls") = recorded (w.calls.countP (·.1 = name))
          ∧ (w.metrics.timers.lookup (name ++ ".duration")).map Timer.count
              = recorded (w.calls.countP (·.1 = name))
          ∧ w.metrics.counters.lookup (name ++ ".errors")
              = recorded (w.calls.countP fun call => call.1 = name && failed call.2) := by
  obtain ⟨performed, metrics, all⟩ := h.accounted.performed quiet
  refine ⟨?results, ?books⟩
  case results =>
    intro t member
    obtain ⟨result, ended⟩ := Option.isSome_iff_exists.mp (quiet t member)
    rw [ended, (Task.at_end ended).2 (h.accounted.onTrack t member)]
  case books =>
    intro name apart
    have clear : ∀ deed ∈ performed, deed.Clear name := by
      intro deed member
      obtain ⟨t, under, mine⟩ := List.mem_flatMap.mp (all.mem_iff.mp member)
      apply Program.clear_deeds (fun use used => apart use ?_) deed mine
      exact List.mem_flatMap.mpr ⟨t, under, used⟩
    have books := (books_new name).after clear
    rw [← metrics, all.countP_eq, all.countP_eq, all.countP_eq,
      w.countP_deeds fun p => (p.countP_deeds name).1,
      w.countP_deeds fun p => (p.countP_deeds name).2.1,
      w.countP_deeds fun p => (p.countP_deeds name).2.2, Nat.zero_add, Nat.zero_add] at books
    exact ⟨books.calls, books.durations.trans (ticked_self _), books.errors⟩

/-- A call that fails. -/
def compiling : Program String Nat :=
  .call "compile" (.done (.error "empty")) .done

/-- A call that catches what goes wrong in the call inside it. -/
def answering : Program String Nat :=
  .call "answer" (.call "compile" (.done (.error "empty")) fun _ => .done (.ok 0)) .done

/-- An answer that is given while another program is inside a call of its own. -/
theorem tracked_answering
    : ∃ w : Workload String Nat, w.Reachable ∧ w.Quiet
        ∧ w.metrics.counters.lookup ("compile" ++ ".calls") = some 2
        ∧ (w.metrics.timers.lookup ("compile" ++ ".duration")).map Timer.count = some 2
        ∧ w.metrics.counters.lookup ("compile" ++ ".errors") = some 2
        ∧ w.metrics.counters.lookup ("answer" ++ ".errors") = none := by
  have begun := Reachable.new.begin compiling
  have inside := begun.step [] []
  have answered := inside.run answering
  have ended := answered.step [] _
  obtain ⟨_, books⟩ :=
    ended.tracked (List.forall_mem_cons.mpr ⟨rfl, List.forall_mem_singleton.mpr rfl⟩)
  obtain ⟨calls, durations, errors⟩ := books "compile" nofun
  obtain ⟨_, _, none⟩ := books "answer" nofun
  exact ⟨_, ended, List.forall_mem_cons.mpr ⟨rfl, List.forall_mem_singleton.mpr rfl⟩, calls,
    durations, errors, none⟩

end Workload

end RideQuestions.Tracking
