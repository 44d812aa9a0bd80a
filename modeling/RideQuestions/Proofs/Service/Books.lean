import RideQuestions.Proofs.Value.Entries
import RideQuestions.Service.Service
import RideQuestions.Store.Backed

/-! The counters of the service. Counting under one name shows in a selection of names exactly when
the name is selected, and what the service works with counts under names of its own.
-/

namespace RideQuestions

-----------------------------------------------------------------------------------------
-- Selections of counters
-----------------------------------------------------------------------------------------

namespace Metrics

variable {m other : Metrics} {p q : String → Bool} {name : String} {amount : Nat}

/-- The counters whose names are selected. -/
def select (p : String → Bool) (m : Metrics) : List (String × Nat) :=
  m.counters.filter (p ·.1)

/-- The sum of the counters whose names are selected. -/
def total (p : String → Bool) (m : Metrics) : Nat :=
  ((m.select p).map Prod.snd).sum

/-- What agrees on a selection agrees on every part of it. -/
theorem select_mono (within : ∀ name, q name = true → p name = true)
    (same : m.select p = other.select p)
    : m.select q = other.select q := by
  have part : ∀ m : Metrics, m.select q = (m.select p).filter (q ·.1) := by
    intro m
    rw [select, select, List.filter_filter]
    apply List.filter_congr
    intro e _
    by_cases selected : q e.1 = true
    · rw [selected, within e.1 selected, Bool.and_self]
    · rw [Bool.not_eq_true] at selected
      rw [selected, Bool.false_and]
  rw [part m, part other, same]

theorem select_count_of_not (unselected : p name = false)
    : (m.count name amount).select p = m.select p :=
  Value.filter_put_of_not unselected

theorem select_track_of_not {ε α : Type} {result : Except ε α}
    (calls : p (name ++ ".calls") = false) (errors : p (name ++ ".errors") = false)
    : (m.track name fun m => (result, m)).2.select p = m.select p := by
  cases result with
  | ok value => exact select_count_of_not calls
  | error reason => exact (select_count_of_not errors).trans (select_count_of_not calls)

/-- Counting changes the counter of its name and no other. -/
theorem counter_count {asked : String}
    : (m.count name amount).counter asked
      = if asked = name then m.counter name + amount else m.counter asked := by
  rw [counter, count, Value.lookup_put]
  split <;> rfl

theorem counter_eq_of_select (selected : p name = true) (same : m.select p = other.select p)
    : m.counter name = other.counter name := by
  have found : ∀ m : Metrics, m.counters.lookup name = (m.select p).lookup name :=
    fun m => (Value.lookup_filter_of_pos selected).symm
  rw [counter, counter, found m, found other, same]

/-- Counting adds to a sum exactly when the name is selected. -/
theorem total_count
    : (m.count name amount).total p = m.total p + if p name then amount else 0 :=
  Value.sum_filter_put

-----------------------------------------------------------------------------------------
-- The names that the service counts under
-----------------------------------------------------------------------------------------

/-- Whether a name is one of the service's own. -/
def isOwn (name : String) : Bool :=
  "query_service.".toList.isPrefixOf name.toList

/-- Whether a name is one under which the ends of answering are counted: an answer or an error. -/
def isOutcome (name : String) : Bool :=
  name = "query_service.answered" || "query_service.errors.".toList.isPrefixOf name.toList

theorem isOwn_of_isOutcome (outcome : isOutcome name = true)
    : isOwn name = true := by
  rw [isOutcome, Bool.or_eq_true, decide_eq_true_eq, List.isPrefixOf_iff_prefix] at outcome
  rw [isOwn, List.isPrefixOf_iff_prefix]
  rcases outcome with rfl | error
  · decide
  · exact List.IsPrefix.trans (by decide) error

theorem prefix_toList_append (beginning rest : String)
    : beginning.toList <+: (beginning ++ rest).toList := by
  rw [String.toList_append]
  exact List.prefix_append _ _

/-- Every failure is counted as an error of the service. -/
theorem isPrefixOf_failureCounter (fault : Fault)
    : "query_service.errors.".toList.isPrefixOf (Scene.failureCounter fault).toList = true := by
  rw [List.isPrefixOf_iff_prefix]
  cases fault with
  | service error => exact prefix_toList_append "query_service.errors." (Text.lower error.code)
  | store _ _ | missingKey _ | other _ _ =>
      exact prefix_toList_append "query_service.errors." "execution_failure"

theorem isOutcome_failureCounter (fault : Fault)
    : isOutcome (Scene.failureCounter fault) = true := by
  rw [isOutcome, isPrefixOf_failureCounter, Bool.or_true]

/-- Entries in the books of the service: questions asked, ends of answering, schemas loaded. -/
structure Entries where
  questions : Nat := 0
  outcomes : Nat := 0
  loads : Nat := 0

instance : Add Entries where
  add a b := ⟨a.questions + b.questions, a.outcomes + b.outcomes, a.loads + b.loads⟩

/-- One set of metrics follows another with some more entries in the books. -/
structure Adds (before after : Metrics) (entries : Entries) : Prop where
  questions : after.counter "query_service.questions"
    = before.counter "query_service.questions" + entries.questions
  outcomes : after.total isOutcome = before.total isOutcome + entries.outcomes
  loads : after.counter "query_service.schema_loads"
    = before.counter "query_service.schema_loads" + entries.loads

/-- Entries are added up on the way. -/
theorem Adds.trans {before between after : Metrics} {first second : Entries}
    (h : before.Adds between first) (next : between.Adds after second)
    : before.Adds after (first + second) where
  questions := by rw [next.questions, h.questions, Nat.add_assoc]; rfl
  outcomes := by rw [next.outcomes, h.outcomes, Nat.add_assoc]; rfl
  loads := by rw [next.loads, h.loads, Nat.add_assoc]; rfl

/-- Who leaves the names of the service alone enters nothing in its books. -/
theorem adds_of_select {before after : Metrics} (same : after.select isOwn = before.select isOwn)
    : before.Adds after {} where
  questions := counter_eq_of_select (by decide) same
  outcomes := by
    rw [total, total, select_mono (fun _ => isOwn_of_isOutcome) same]
    rfl
  loads := counter_eq_of_select (by decide) same

/-- Counting once enters one of a kind wherever the name belongs. -/
theorem adds_count (m : Metrics) (name : String)
    : m.Adds (m.count name 1)
        {
          questions := if "query_service.questions" = name then 1 else 0,
          outcomes := if isOutcome name then 1 else 0,
          loads := if "query_service.schema_loads" = name then 1 else 0
        } where
  questions := by rw [counter_count]; split <;> simp [*]
  outcomes := total_count
  loads := by rw [counter_count]; split <;> simp [*]

theorem adds_question (m : Metrics)
    : m.Adds (m.count "query_service.questions" 1) { questions := 1 } :=
  m.adds_count "query_service.questions"

theorem adds_load (m : Metrics)
    : m.Adds (m.count "query_service.schema_loads" 1) { loads := 1 } :=
  m.adds_count "query_service.schema_loads"

theorem adds_outcome (m : Metrics) (outcome : isOutcome name = true)
    : m.Adds (m.count name 1) { outcomes := 1 } := by
  have added := m.adds_count name
  have noQuestion : "query_service.questions" ≠ name := by
    rintro rfl
    exact absurd outcome (by decide)
  have noLoad : "query_service.schema_loads" ≠ name := by
    rintro rfl
    exact absurd outcome (by decide)
  rwa [if_neg noQuestion, if_neg noLoad, if_pos outcome] at added

end Metrics

-----------------------------------------------------------------------------------------
-- What the service works with
-----------------------------------------------------------------------------------------

variable {W : Type}

/-- Collaborators that count nothing under the names of the service. -/
structure Collaborators.Discreet (c : Collaborators W) : Prop where
  load : ∀ metrics world,
    (c.load metrics world).2.1.select Metrics.isOwn = metrics.select Metrics.isOwn
  execute : ∀ text parameters metrics world,
    (c.execute text parameters metrics world).2.1.select Metrics.isOwn
      = metrics.select Metrics.isOwn

/-- A store counts its queries under names of its own. -/
theorem Store.collaborators_discreet (db : Database W) (schemaName : String)
    : (Store.collaborators db schemaName).Discreet where
  load := fun _ _ => rfl
  execute := by
    rintro text parameters metrics ⟨pool, w⟩
    have counted : ∀ (metrics : Metrics) (name : String),
        Metrics.isOwn name = false →
          (metrics.count name 1).select Metrics.isOwn = metrics.select Metrics.isOwn :=
      fun _ _ => Metrics.select_count_of_not
    change (Store.execute db text parameters metrics pool w).2.1.select _ = _
    rw [Store.execute]
    generalize pool.run db (Query.toNamedBinds text parameters) w = outcome
    obtain ⟨rows, pool, w⟩ := outcome
    cases rows with
    | ok rows => exact counted _ "database.query.success" (by decide)
    | error fault =>
        cases fault with
        | store text driver => exact counted _ "database.query.errors" (by decide)
        | service _ | missingKey _ | other _ _ => rfl

end RideQuestions
