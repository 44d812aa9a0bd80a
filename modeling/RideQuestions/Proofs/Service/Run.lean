import RideQuestions.Proofs.Service.Contact
import RideQuestions.Proofs.Service.Turn

/-! Runs of a new service through any events. The books balance at every point of a run: every
question is counted once when it arrives and once when it has got its answer, and the questions
that have got none are under way.
-/

namespace RideQuestions

open Query

variable {W : Type}

/-- A schema with columns was given. -/
def Loading.succeeds (loading : Loading) : Bool :=
  (Scene.usable? loading.outcome).isSome

/-- An answer to a question. -/
def Reply.answers : Reply → Bool
  | answered _ => true
  | _ => false

namespace Traffic

variable {c : Collaborators W} {t t' : Traffic (W × List Contact)} {caller : Caller}
variable {event : Event} {config : CompilerConfig} {start : Metrics}

/-- A new service, before any contact. -/
def opening (config : CompilerConfig) (metrics : Metrics) (world : W)
    : Traffic (W × List Contact) :=
  { scene := { service := .new config, metrics, world := (world, []) } }

/-- What events lead to, each with the collaborators as they behave then. -/
def after (t : Traffic (W × List Contact)) (events : List (Collaborators W × Event))
    : Traffic (W × List Contact) :=
  events.foldl (fun t (c, event) => t.step c.recorded event) t

/-- The loads that events complete, one after another. -/
def completed (t : Traffic (W × List Contact)) : List (Collaborators W × Event) → List Loading
  | [] => []
  | (c, event) :: rest =>
      (t.completes? event).toList ++ (t.step c.recorded event).completed rest

theorem Reachable.after (h : t.Reachable config) (events : List (Collaborators W × Event))
    : (t.after events).Reachable config := by
  induction events generalizing t with
  | nil => exact h
  | cons entry rest ih => exact ih (h.event entry.1.recorded entry.2)

/-- The answers given so far. -/
def answered (t : Traffic (W × List Contact)) : Nat :=
  t.replies.countP fun reply => reply.2.answers

-----------------------------------------------------------------------------------------
-- What a turn does outside
-----------------------------------------------------------------------------------------

/-- At the beginning of a turn no contact is made. A question that arrives is entered in the books,
and so is a schema that is brought. -/
theorem Opens.account (opens : t.Opens event caller t') (c : Collaborators W)
    : t.scene.Account c t'.scene []
        {
          questions := if event.asks then 1 else 0,
          loads := if (t.brought? event).isSome then 1 else 0
        } := by
  cases opens with
  | arrival caller =>
      rw [enroll, Event.asks]
      split
      · exact Scene.account_of_log rfl t.scene.metrics.adds_question
      · exact .refl c t.scene
  | delivery loading held =>
      have accepted := Scene.account_accept (c := c) loading.outcome t.scene
      rw [brought?, completes?, held]
      exact accepted
  | wakening => exact .refl c t.scene

/-- A call has run to its end with some contacts and a reply. No schema was asked for, and a
question is entered in the books as one that has got its answer. -/
structure Ends (c : Collaborators W) (t : Traffic (W × List Contact)) (caller : Caller)
    (t' : Traffic (W × List Contact)) (contacts : List Contact) (reply : Reply) : Prop where
  account : t.scene.Account c t'.scene contacts
    { outcomes := if caller.call.asks then 1 else 0 }
  supplies : contacts.filterMap Contact.supply? = []
  replies : t'.replies = t.replies ++ [(caller.number, reply)]
  answers : reply.answers = caller.call.asks
  loading : t'.loading = t.loading
  waiting : t'.waiting = t.waiting

theorem Ends.answered {contacts : List Contact} {reply : Reply}
    (ends : Ends c t caller t' contacts reply)
    : t'.answered = t.answered + if caller.call.asks then 1 else 0 := by
  rw [Traffic.answered, ends.replies, List.countP_append, List.countP_singleton, ends.answers]
  rfl

theorem proceed_ends (c : Collaborators W) (caller : Caller) (t : Traffic (W × List Contact))
    : ∃ contacts reply, Ends c t caller (t.proceed c.recorded caller) contacts reply := by
  obtain ⟨loading, waiting⟩ := t.proceed_keeps c.recorded caller
  cases silent : caller.call.asks with
  | false =>
      rw [proceed_of_silent silent]
      exact ⟨[], .done, by rw [silent]; exact .refl c t.scene, rfl, rfl, silent.symm, rfl, rfl⟩
  | true =>
      obtain ⟨question, now, call⟩ := Call.eq_ask silent
      obtain ⟨contacts, responded, account⟩ :=
        t.scene.respond_responded c (question.getD "") now
      refine ⟨contacts, .answered (t.scene.respond c.recorded (question.getD "") now).1,
        ?_, responded.supplies_eq_nil, ?_, by rw [silent]; rfl, loading, waiting⟩
      · rw [proceed_ask call, reply_scene, silent]
        dsimp only
        exact account
      · rw [proceed_ask call, reply_replies]

theorem giveUp_ends (c : Collaborators W) (error : ServiceError) (caller : Caller)
    (t : Traffic (W × List Contact))
    : ∃ reply, Ends c t caller (t.giveUp error caller) [] reply ∧ reply ≠ .done := by
  cases asks : caller.call.asks with
  | false =>
      rw [giveUp_of_silent asks]
      exact ⟨.refused error,
        ⟨by rw [asks]; exact .refl c t.scene, rfl, rfl, asks.symm, rfl, rfl⟩, by simp⟩
  | true =>
      have failed := t.scene.account_fail (c := c) (.service error)
      rw [giveUp_of_asks asks]
      exact ⟨_, ⟨by rw [asks]; exact failed, rfl, rfl, asks.symm, rfl, rfl⟩, by simp⟩

-----------------------------------------------------------------------------------------
-- The books over a run
-----------------------------------------------------------------------------------------

/-- Balanced books, within a turn of some call or between turns: what was entered since the
beginning is the questions asked, the answers given and the schemas loaded, and the questions
without an answer are under way. -/
structure Balance (start : Metrics) (acting : Option Caller) (asked loads : Nat)
    (t : Traffic (W × List Contact)) : Prop where
  books : start.Adds t.scene.metrics ⟨asked, t.answered, loads⟩
  underway : asked = t.answered + (acting.toList ++ t.callers).countP fun caller =>
    caller.call.asks

variable {asked loads : Nat}

theorem Opens.answered (opens : t.Opens event caller t')
    : t'.answered = t.answered := by
  rw [Traffic.answered, opens.replies]
  rfl

theorem Balance.opens (h : Balance start none asked loads t) (opens : t.Opens event caller t')
    (discreet : c.Discreet)
    : Balance start (some caller) (asked + if event.asks then 1 else 0)
        (loads + if (t.brought? event).isSome then 1 else 0) t' := by
  refine ⟨?_, ?_⟩
  · rw [opens.answered]
    exact h.books.trans ((opens.account c).entries discreet)
  · have arrived : (event.arrivals.countP fun caller => caller.call.asks)
        = if event.asks then 1 else 0 := by
      cases event with
      | arrival caller => exact List.countP_singleton
      | delivery | wakening => rfl
    have whole : (some caller).toList ++ t'.callers = event.arrivals ++ t.callers := opens.callers
    have underway := h.underway
    rw [whole, List.countP_append, arrived, opens.answered]
    rw [Option.toList_none, List.nil_append] at underway
    omega

theorem Balance.ends {contacts : List Contact} {reply : Reply}
    (h : Balance start (some caller) asked loads t) (ends : Ends c t caller t' contacts reply)
    (discreet : c.Discreet)
    : Balance start none asked loads t' := by
  refine ⟨?_, ?_⟩
  · rw [ends.answered]
    exact h.books.trans (ends.account.entries discreet)
  · have same : t'.callers = t.callers := by rw [callers, ends.loading, ends.waiting]; rfl
    have underway := h.underway
    rw [Option.toList_some, List.singleton_append, List.countP_cons] at underway
    rw [same, ends.answered, Option.toList_none, List.nil_append]
    omega

theorem Balance.closes (h : Balance start (some caller) asked loads t)
    (closes : Closes c.recorded t caller t') (discreet : c.Discreet)
    : Balance start none asked loads t' := by
  cases closes with
  | proceed =>
      obtain ⟨_, _, ends⟩ := proceed_ends c caller t
      exact h.ends ends discreet
  | giveUp error =>
      obtain ⟨_, ends, _⟩ := giveUp_ends c error caller t
      exact h.ends ends discreet
  | start _ free =>
      have asked := (Scene.account_askSchema c t.scene).1
      refine ⟨h.books.trans (asked.entries discreet), ?_⟩
      have underway := h.underway
      rw [callers, free] at underway
      exact underway
  | wait =>
      refine ⟨h.books, ?_⟩
      have underway := h.underway
      have last : { t with waiting := t.waiting ++ [caller] }.callers = t.callers ++ [caller] :=
        (List.append_assoc _ _ _).symm
      rw [Option.toList_some, List.singleton_append, List.countP_cons] at underway
      rw [last, Option.toList_none, List.nil_append, List.countP_append, List.countP_singleton]
      exact underway

/-- An event keeps the books balanced. -/
theorem Balance.step (h : Balance start none asked loads t) (reachable : t.Reachable config)
    (discreet : c.Discreet) (event : Event)
    : Balance start none (asked + if event.asks then 1 else 0)
        (loads + if (t.brought? event).isSome then 1 else 0) (t.step c.recorded event) := by
  rcases step_cases reachable.sound c.recorded event with
    ⟨nobody, same⟩ | ⟨caller, between, opens, closes⟩
  · rw [same, asks_of_nobody nobody, brought?, completes?_of_nobody nobody]
    exact h
  · exact (h.opens opens discreet).closes closes discreet

theorem countP_completes? (t : Traffic (W × List Contact)) (event : Event)
    : (t.completes? event).toList.countP Loading.succeeds
      = if (t.brought? event).isSome then 1 else 0 := by
  rw [brought?]
  cases t.completes? event with
  | none => rfl
  | some loading => exact List.countP_singleton

/-- Events keep the books balanced, by induction over them. -/
theorem Balance.after (h : Balance start none asked loads t) (reachable : t.Reachable config)
    (events : List (Collaborators W × Event)) (discreet : ∀ entry ∈ events, entry.1.Discreet)
    : Balance start none (asked + events.countP fun entry => entry.2.asks)
        (loads + (t.completed events).countP Loading.succeeds) (t.after events) := by
  induction events generalizing t asked loads with
  | nil => exact h
  | cons entry rest ih =>
      obtain ⟨c, event⟩ := entry
      obtain ⟨now, later⟩ := List.forall_mem_cons.mp discreet
      have next := ih (h.step reachable now event) (reachable.event c.recorded event) later
      rw [completed, List.countP_append, countP_completes?, List.countP_cons]
      rw [Nat.add_assoc, Nat.add_assoc] at next
      rw [Nat.add_comm (rest.countP _)]
      exact next

/-- At every point of a run, the questions, answers and schemas entered in the books are those that
arrived, were given and were loaded in it, and the questions without an answer are under way. -/
theorem after_balanced (config : CompilerConfig) (metrics : Metrics) (world : W)
    (events : List (Collaborators W × Event)) (discreet : ∀ entry ∈ events, entry.1.Discreet)
    : Balance metrics none (events.countP fun entry => entry.2.asks)
        (((opening config metrics world).completed events).countP Loading.succeeds)
        ((opening config metrics world).after events) := by
  have begun : Balance metrics none 0 0 (opening config metrics world) :=
    ⟨Metrics.adds_of_select rfl, rfl⟩
  have balanced := begun.after (.start metrics (world, [])) events discreet
  rw [Nat.zero_add, Nat.zero_add] at balanced
  exact balanced

end Traffic

end RideQuestions
