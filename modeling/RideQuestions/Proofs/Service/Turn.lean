import RideQuestions.Proofs.Service.Standing
import RideQuestions.Service.Traffic

/-! Turns of the calls under way. Whatever happens next, at most one call acts: it arrives, gets
what the provider has given, or is woken, and then it ends, begins to load or waits. From this
follows where the service stands in every state that calls lead to.
-/

namespace RideQuestions

open Calendar Query

variable {W : Type}

namespace Call

def reloads : Call → Bool
  | reload => true
  | _ => false

theorem eq_reload {call : Call} (anew : call.reloads = true)
    : call = .reload := by
  cases call with
  | reload => rfl
  | ensure | ask => cases anew

def asks : Call → Bool
  | ask _ _ => true
  | _ => false

theorem eq_ask {call : Call} (asks : call.asks = true)
    : ∃ question now, call = .ask question now := by
  cases call with
  | ask question now => exact ⟨question, now, rfl⟩
  | ensure | reload => cases asks

/-- A call that asks nothing, or a question that says something. -/
def Sound (call : Call) : Prop :=
  ∀ question now, call = .ask question now → ∃ asked, Scene.askable question = .ok asked

end Call

namespace Traffic

variable {t t' : Traffic W} {c : Collaborators W} {caller : Caller} {event : Event}
variable {config : CompilerConfig} {latest : Option Schema}

/-- The calls under way, the one that loads before those that wait. -/
def callers (t : Traffic W) : List Caller :=
  t.loading.toList.map Loading.caller ++ t.waiting

/-- The call that an event lets act, if any. -/
def actor? (t : Traffic W) : Event → Option Caller
  | .arrival caller => some caller
  | .delivery => t.loading.map Loading.caller
  | .wakening => if t.loading.isNone then t.waiting.head? else none

/-- A call has arrived; a question is counted. -/
def enroll (caller : Caller) (t : Traffic W) : Traffic W :=
  if caller.call.asks then { t with scene := t.scene.count "query_service.questions" } else t

/-- How a turn begins: a call comes to act, in the state that it finds. -/
inductive Opens (t : Traffic W) : Event → Caller → Traffic W → Prop where
  | arrival (caller : Caller)
      : Opens t (.arrival caller) caller (t.enroll caller)
  | delivery (loading : Loading) (held : t.loading = some loading)
      : Opens t .delivery loading.caller
          { t with scene := (t.scene.accept loading.outcome).2, loading := none }
  | wakening {caller : Caller} {rest : List Caller} (free : t.loading = none)
      (first : t.waiting = caller :: rest)
      : Opens t .wakening caller { t with waiting := rest }

/-- How a turn ends: the call runs to its end with a schema or without, begins to load, or waits.
-/
inductive Closes (c : Collaborators W) (t : Traffic W) (caller : Caller) : Traffic W → Prop where
  | proceed (sound : caller.call.Sound) (loaded : t.scene.service.loaded = true)
      : Closes c t caller (t.proceed c caller)
  | giveUp (error : ServiceError)
      : Closes c t caller (t.giveUp error caller)
  | start (sound : caller.call.Sound) (free : t.loading = none)
      (needs : t.content caller = false)
      : Closes c t caller (t.startLoading c caller)
  | wait (sound : caller.call.Sound)
      : Closes c t caller { t with waiting := t.waiting ++ [caller] }

/-- A call is content exactly with a loaded schema that it does not want anew. -/
theorem content_eq (t : Traffic W) (caller : Caller)
    : t.content caller = (!caller.call.reloads && t.scene.service.loaded) := by
  unfold content Call.reloads
  split <;> simp_all

theorem loaded_of_content (content : t.content caller = true)
    : t.scene.service.loaded = true := by
  rw [content_eq, Bool.and_eq_true] at content
  exact content.2

theorem withLock_closes (sound : caller.call.Sound) (free : t.loading = none)
    : Closes c t caller (t.withLock c caller) := by
  unfold withLock
  split
  · next content => exact .proceed sound (loaded_of_content content)
  · next needs => exact .start sound free (by simpa using needs)

theorem enter_closes (sound : caller.call.Sound)
    : Closes c t caller (t.enter c caller) := by
  unfold enter
  split
  · next content => exact .proceed sound (loaded_of_content content)
  · next needs =>
      split
      · next free =>
          rw [Bool.and_eq_true, Option.isNone_iff_eq_none] at free
          exact .start sound free.1 (by simpa using needs)
      · exact .wait sound

theorem arrive_closes (t : Traffic W) (caller : Caller)
    : Closes c (t.enroll caller) caller (t.arrive c caller) := by
  obtain ⟨number, call⟩ := caller
  cases call with
  | ensure => exact enter_closes (by rintro _ _ ⟨⟩)
  | reload => exact enter_closes (by rintro _ _ ⟨⟩)
  | ask question now =>
      rw [arrive, enroll, Call.asks, if_pos rfl]
      dsimp only
      cases sound : Scene.askable question with
      | error error => exact .giveUp error
      | ok asked =>
          refine enter_closes ?_
          rintro _ _ ⟨⟩
          exact ⟨asked, sound⟩

/-- What the provider has given is taken over before the call goes on, and the call goes on with a
schema only if there is one. -/
theorem deliver_closes {loading : Loading} (sound : loading.caller.call.Sound)
    (held : t.loading = some loading)
    : Closes c { t with scene := (t.scene.accept loading.outcome).2, loading := none }
        loading.caller (t.deliver c) := by
  rw [deliver, held]
  cases given : Scene.usable? loading.outcome with
  | none =>
      obtain ⟨error, _, _, same⟩ := Scene.accept_of_unusable (s := t.scene) given
      dsimp only
      rw [same]
      exact .giveUp error
  | some schema =>
      dsimp only
      rw [Scene.accept_of_usable given]
      exact .proceed sound rfl

theorem Opens.actor (opens : t.Opens event caller t')
    : t.actor? event = some caller := by
  cases opens with
  | arrival => rfl
  | delivery loading held => rw [actor?, held]; rfl
  | wakening free first => rw [actor?, free, first]; rfl

/-- Whatever happens next is the turn of some call, or nothing. -/
theorem step_cases (sound : ∀ caller ∈ t.callers, caller.call.Sound) (c : Collaborators W)
    (event : Event)
    : (t.actor? event = none ∧ t.step c event = t)
      ∨ ∃ caller between, t.Opens event caller between
        ∧ Closes c between caller (t.step c event) := by
  cases event with
  | arrival caller => exact .inr ⟨caller, _, .arrival caller, arrive_closes t caller⟩
  | delivery =>
      cases held : t.loading with
      | none =>
          refine .inl ⟨?_, ?_⟩
          · rw [actor?, held]; rfl
          · rw [step, deliver, held]
      | some loading =>
          have first : loading.caller ∈ t.callers := by simp [callers, held]
          exact .inr ⟨loading.caller, _, .delivery loading held,
            deliver_closes (sound _ first) held⟩
  | wakening =>
      cases free : t.loading with
      | some loading =>
          refine .inl ⟨?_, ?_⟩
          · rw [actor?, free]; rfl
          · rw [step, wake, free]
      | none =>
          cases queue : t.waiting with
          | nil =>
              refine .inl ⟨?_, ?_⟩
              · rw [actor?, free, queue]; rfl
              · rw [step, wake, free, queue]
          | cons caller rest =>
              have first : caller ∈ t.callers := by simp [callers, queue]
              refine .inr ⟨caller, _, .wakening free queue, ?_⟩
              have woken : t.step c .wakening = { t with waiting := rest }.withLock c caller := by
                rw [step, wake, free, queue]
              rw [woken]
              exact withLock_closes (sound caller first) free

-----------------------------------------------------------------------------------------
-- What a turn leaves behind
-----------------------------------------------------------------------------------------

@[simp] theorem reply_scene (caller : Caller) (reply : Reply) (t : Traffic W)
    : (t.reply caller reply).scene = t.scene :=
  rfl

@[simp] theorem reply_loading (caller : Caller) (reply : Reply) (t : Traffic W)
    : (t.reply caller reply).loading = t.loading :=
  rfl

@[simp] theorem reply_waiting (caller : Caller) (reply : Reply) (t : Traffic W)
    : (t.reply caller reply).waiting = t.waiting :=
  rfl

@[simp] theorem reply_replies (caller : Caller) (reply : Reply) (t : Traffic W)
    : (t.reply caller reply).replies = t.replies ++ [(caller.number, reply)] :=
  rfl

/-- A call that asks nothing is done once the schema is loaded. -/
theorem proceed_of_silent (silent : caller.call.asks = false)
    : t.proceed c caller = t.reply caller .done := by
  unfold proceed
  split
  · rfl
  · rfl
  · next call => rw [call] at silent; cases silent

/-- A question for which the schema is loaded is answered and gets its reply. -/
theorem proceed_ask {question : Option String} {now : Instant}
    (call : caller.call = .ask question now)
    : t.proceed c caller
      = { t with scene := (t.scene.respond c (question.getD "") now).2 }.reply caller
          (.answered (t.scene.respond c (question.getD "") now).1) := by
  rw [proceed, call]

/-- The calls under way are not touched by one that runs to its end. -/
theorem proceed_keeps (c : Collaborators W) (caller : Caller) (t : Traffic W)
    : (t.proceed c caller).loading = t.loading ∧ (t.proceed c caller).waiting = t.waiting := by
  cases silent : caller.call.asks with
  | false => rw [proceed_of_silent silent]; exact ⟨rfl, rfl⟩
  | true =>
      obtain ⟨question, now, call⟩ := Call.eq_ask silent
      rw [proceed_ask call, reply_loading, reply_waiting]
      exact ⟨rfl, rfl⟩

/-- A call that asks nothing is refused with the reason that there is no schema. -/
theorem giveUp_of_silent (silent : caller.call.asks = false) (error : ServiceError)
    : t.giveUp error caller = t.reply caller (.refused error) := by
  unfold giveUp
  split
  · rfl
  · rfl
  · next call => rw [call] at silent; cases silent

/-- A question gets an answer that says why there is none. -/
theorem giveUp_of_asks (asks : caller.call.asks = true) (error : ServiceError)
    : t.giveUp error caller
      = { t with scene := (t.scene.fail (.service error)).2 }.reply caller
          (.answered (.ok (t.scene.fail (.service error)).1)) := by
  obtain ⟨question, now, call⟩ := Call.eq_ask asks
  rw [giveUp, call]

theorem giveUp_keeps (error : ServiceError) (caller : Caller) (t : Traffic W)
    : (t.giveUp error caller).loading = t.loading
      ∧ (t.giveUp error caller).waiting = t.waiting := by
  unfold giveUp
  split <;> exact ⟨rfl, rfl⟩

theorem giveUp_service (error : ServiceError) (caller : Caller) (t : Traffic W)
    : (t.giveUp error caller).scene.service = t.scene.service := by
  unfold giveUp
  split <;> rfl

theorem enroll_keeps (caller : Caller) (t : Traffic W)
    : (t.enroll caller).callers = t.callers
      ∧ (t.enroll caller).scene.service = t.scene.service := by
  unfold enroll
  split <;> exact ⟨rfl, rfl⟩

/-- The load that an event completes, if any. -/
def completes? (t : Traffic W) : Event → Option Loading
  | .delivery => t.loading
  | _ => none

/-- The schema that an event brings: the one that the provider has given, if it is usable. -/
def brought? (t : Traffic W) (event : Event) : Option Schema :=
  (t.completes? event).bind fun loading => Scene.usable? loading.outcome

theorem completes?_of_nobody (nobody : t.actor? event = none)
    : t.completes? event = none := by
  cases event with
  | delivery => exact Option.map_eq_none_iff.mp nobody
  | arrival | wakening => rfl

theorem Opens.stands (opens : t.Opens event caller t')
    (h : t.scene.service.StandsAt config latest)
    : t'.scene.service.StandsAt config ((t.brought? event).or latest) := by
  cases opens with
  | arrival caller => rw [(t.enroll_keeps caller).2]; exact h
  | delivery loading held =>
      rw [brought?, completes?, held]
      exact Scene.StandsAt.accept h
  | wakening => exact h

theorem Closes.stands (closes : Closes c t caller t')
    (h : t.scene.service.StandsAt config latest)
    : t'.scene.service.StandsAt config latest := by
  cases closes with
  | proceed =>
      cases silent : caller.call.asks with
      | false => rw [proceed_of_silent silent]; exact h
      | true =>
          obtain ⟨question, now, call⟩ := Call.eq_ask silent
          rw [proceed_ask call, reply_scene]
          dsimp only
          exact Scene.StandsAt.respond h (question.getD "") now
  | giveUp error => rw [giveUp_service]; exact h
  | start => exact h
  | wait => exact h

/-- The arrival of a question. -/
def Event.asks : Event → Bool
  | arrival caller => caller.call.asks
  | _ => false

theorem asks_of_nobody (nobody : t.actor? event = none)
    : event.asks = false := by
  cases event with
  | arrival caller => cases nobody
  | delivery | wakening => rfl

/-- The calls that an event adds. -/
def Event.arrivals : Event → List Caller
  | arrival caller => [caller]
  | _ => []

/-- Who acts was under way or has just arrived, and all others under way stay so. -/
theorem Opens.callers (opens : t.Opens event caller t')
    : caller :: t'.callers = event.arrivals ++ t.callers := by
  cases opens with
  | arrival caller => rw [(t.enroll_keeps caller).1]; rfl
  | delivery loading held => rw [Traffic.callers, Traffic.callers, held]; rfl
  | wakening free first => rw [Traffic.callers, Traffic.callers, free, first]; rfl

theorem Opens.callers_subset (opens : t.Opens event caller t')
    : ∀ other ∈ t'.callers, other ∈ t.callers := by
  have whole := opens.callers
  cases event with
  | arrival =>
      rw [(List.cons.inj whole).2]
      exact fun _ => id
  | delivery | wakening =>
      have whole : caller :: t'.callers = t.callers := whole
      rw [← whole]
      exact fun _ => List.mem_cons_of_mem caller

/-- The lock is released exactly by the load that is completed. -/
theorem Opens.loading (opens : t.Opens event caller t')
    : (t.completes? event = none ∧ t'.loading = t.loading)
      ∨ ∃ loading, t.completes? event = some loading ∧ t.loading = some loading
        ∧ t'.loading = none := by
  cases opens with
  | arrival caller => exact .inl ⟨rfl, by rw [enroll]; split <;> rfl⟩
  | delivery loading held => exact .inr ⟨loading, held, held, rfl⟩
  | wakening => exact .inl ⟨rfl, rfl⟩

theorem Opens.replies (opens : t.Opens event caller t')
    : t'.replies = t.replies := by
  cases opens with
  | arrival caller => rw [enroll]; split <;> rfl
  | delivery | wakening => rfl

/-- Who begins to load or waits has a sound call. -/
theorem Closes.mem_callers (closes : Closes c t caller t')
    : ∀ other ∈ t'.callers, other ∈ t.callers ∨ other.call.Sound := by
  cases closes with
  | proceed =>
      obtain ⟨loading, waiting⟩ := t.proceed_keeps c caller
      rw [callers, loading, waiting]
      exact fun _ => .inl
  | giveUp error =>
      obtain ⟨loading, waiting⟩ := t.giveUp_keeps error caller
      rw [callers, loading, waiting]
      exact fun _ => .inl
  | start sound free =>
      intro other there
      rcases List.mem_append.mp there with loads | waits
      · obtain rfl : other = caller := List.mem_singleton.mp loads
        exact .inr sound
      · exact .inl (List.mem_append_right _ waits)
  | wait sound =>
      intro other there
      rcases List.mem_append.mp there with loads | waits
      · exact .inl (List.mem_append_left _ loads)
      · rcases List.mem_append.mp waits with earlier | last
        · exact .inl (List.mem_append_right _ earlier)
        · obtain rfl := List.mem_singleton.mp last
          exact .inr sound

/-- An event moves the service to the schema that it brings, and keeps the calls under way sound. -/
theorem step_keeps (sound : ∀ caller ∈ t.callers, caller.call.Sound)
    (h : t.scene.service.StandsAt config latest) (c : Collaborators W) (event : Event)
    : (∀ caller ∈ (t.step c event).callers, caller.call.Sound)
      ∧ (t.step c event).scene.service.StandsAt config ((t.brought? event).or latest) := by
  rcases step_cases sound c event with ⟨nobody, same⟩ | ⟨caller, between, opens, closes⟩
  · rw [same, brought?, completes?_of_nobody nobody]
    exact ⟨sound, h⟩
  · refine ⟨?_, closes.stands (opens.stands h)⟩
    intro other there
    exact (closes.mem_callers other there).elim
      (fun earlier => sound other (opens.callers_subset other earlier)) id

-----------------------------------------------------------------------------------------
-- The states that calls lead to
-----------------------------------------------------------------------------------------

/-- What a service with calls under way comes to from its beginning. The collaborators may behave
in another way at every event, questions are compiled in between, and the metrics and the world
may change without the service. -/
inductive Reachable (config : CompilerConfig) : Traffic W → Prop where
  | start (metrics : Metrics) (world : W)
      : Reachable config { scene := { service := .new config, metrics, world } }
  | event {t : Traffic W} (c : Collaborators W) (event : Event) (h : Reachable config t)
      : Reachable config (t.step c event)
  | compilation {t : Traffic W} (question : String) (now : Instant) (h : Reachable config t)
      : Reachable config { t with scene := (t.scene.compile question now).2 }
  | elsewhere {t : Traffic W} (metrics : Metrics) (world : W) (h : Reachable config t)
      : Reachable config { t with scene := { t.scene with metrics, world } }

/-- In every state that calls lead to, the calls under way are sound and the service stands
somewhere, by induction over what led to it. -/
theorem Reachable.keeps (h : t.Reachable config)
    : (∀ caller ∈ t.callers, caller.call.Sound)
      ∧ ∃ latest, t.scene.service.StandsAt config latest := by
  induction h with
  | start metrics world => exact ⟨by simp [callers], none, Service.standsAt_new config⟩
  | event c event _ ih =>
      obtain ⟨sound, latest, stands⟩ := ih
      obtain ⟨sound, stands⟩ := step_keeps sound stands c event
      exact ⟨sound, _, stands⟩
  | @compilation t question now _ ih =>
      obtain ⟨sound, latest, stands⟩ := ih
      refine ⟨sound, latest, ?_⟩
      rw [(Scene.compile_spec question now t.scene).2.1]
      exact stands.compile question now
  | elsewhere metrics world _ ih => exact ih

theorem Reachable.sound (h : t.Reachable config)
    : ∀ caller ∈ t.callers, caller.call.Sound :=
  h.keeps.1

theorem Reachable.stands (h : t.Reachable config)
    : ∃ latest, t.scene.service.StandsAt config latest :=
  h.keeps.2

/-- Calls that are let on stay reachable, by induction over the suspensions still to come. -/
theorem Reachable.settle (h : t.Reachable config) (c : Collaborators W) (steps : Nat)
    : (Traffic.settle c steps t).Reachable config := by
  induction steps generalizing t with
  | zero => exact h
  | succ steps ih =>
      rw [Traffic.settle]
      split
      · exact ih (h.event c .delivery)
      · split
        · exact h
        · exact ih (h.event c .wakening)

/-- Several calls that run to their end together lead to a reachable state. -/
theorem Reachable.run {scene : Scene W} (h : ({ scene } : Traffic W).Reachable config)
    (c : Collaborators W) (calls : List Call)
    : ∃ t : Traffic W, t.Reachable config ∧ t.scene = (Traffic.run c calls scene).2 := by
  have arrived : ∀ (callers : List Caller) (t : Traffic W), t.Reachable config →
      (callers.foldl (fun t caller => t.arrive c caller) t).Reachable config := by
    intro callers
    induction callers with
    | nil => exact fun _ h => h
    | cons caller rest ih => exact fun t h => ih _ (h.event c (.arrival caller))
  exact ⟨_, (arrived _ _ h).settle c _, rfl⟩

end Traffic

end RideQuestions
