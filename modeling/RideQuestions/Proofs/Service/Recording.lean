import RideQuestions.Proofs.Service.Contact
import RideQuestions.Proofs.Service.Likeness
import RideQuestions.Proofs.Service.Turn

/-! Recording is invisible. A service whose contacts are written down does what it does without:
the same outcomes, the same state, and the same for every call under way.
-/

namespace RideQuestions

open Calendar Query

variable {W : Type}

namespace Scene

/-- A scene without its log. -/
def forget (s : Scene (W × List Contact)) : Scene W :=
  { service := s.service, metrics := s.metrics, world := s.world.1 }

/-- An outcome with the scene that it leaves, without the log. -/
def forgetting {α : Type} (ended : α × Scene (W × List Contact)) : α × Scene W :=
  (ended.1, ended.2.forget)

/-- A world with a log is like the world alone. -/
def Logged (v : W × List Contact) (w : W) : Prop :=
  v.1 = w

theorem recorded_agree (c : Collaborators W)
    : c.recorded.Agree Logged c where
  load := by
    rintro metrics v _ rfl
    exact ⟨rfl, rfl, rfl⟩
  execute := by
    rintro text parameters metrics v _ rfl
    exact ⟨rfl, rfl, rfl⟩
  inspect := rfl

theorem alike_forget (s : Scene (W × List Contact))
    : s.Alike Logged s.forget :=
  ⟨rfl, rfl, rfl⟩

theorem EndAlike.eq_forgetting {α : Type} {x : α × Scene (W × List Contact)} {y : α × Scene W}
    (h : EndAlike Logged x y)
    : y = forgetting x := by
  obtain ⟨result, s⟩ := x
  obtain ⟨_, ⟨_, _, _⟩⟩ := y
  obtain ⟨rfl, ⟨rfl, rfl, rfl⟩⟩ := h
  rfl

variable (c : Collaborators W) (s : Scene (W × List Contact))

theorem accept_forget (outcome : Except Fault (Option Schema))
    : s.forget.accept outcome = forgetting (s.accept outcome) :=
  (s.alike_forget.accept outcome).eq_forgetting

theorem respond_forget (question : String) (now : Instant)
    : s.forget.respond c question now = forgetting (s.respond c.recorded question now) :=
  (s.alike_forget.respond (recorded_agree c) question now).eq_forgetting

/-- Writing contacts down changes no answer. -/
theorem answer_forget (question : Option String) (now : Instant)
    : s.forget.answer c question now = forgetting (s.answer c.recorded question now) :=
  (s.alike_forget.answer (recorded_agree c) question now).eq_forgetting

end Scene

namespace Traffic

/-- Calls under way without the log. -/
def forget (t : Traffic (W × List Contact)) : Traffic W :=
  { scene := t.scene.forget, loading := t.loading, waiting := t.waiting, replies := t.replies }

variable (c : Collaborators W) (caller : Caller) (t : Traffic (W × List Contact))

theorem proceed_forget
    : t.forget.proceed c caller = (t.proceed c.recorded caller).forget := by
  cases silent : caller.call.asks with
  | false => rw [proceed_of_silent silent, proceed_of_silent silent]; rfl
  | true =>
      obtain ⟨question, now, call⟩ := Call.eq_ask silent
      have same : t.forget.scene.respond c (question.getD "") now
          = Scene.forgetting (t.scene.respond c.recorded (question.getD "") now) :=
        t.scene.respond_forget c (question.getD "") now
      rw [proceed_ask call, proceed_ask call, same]
      generalize t.scene.respond c.recorded (question.getD "") now = done
      rfl

theorem giveUp_forget (error : ServiceError)
    : t.forget.giveUp error caller = (t.giveUp error caller).forget := by
  unfold giveUp
  split <;> rfl

theorem withLock_forget
    : t.forget.withLock c caller = (t.withLock c.recorded caller).forget := by
  have same : t.forget.content caller = t.content caller := rfl
  rw [withLock, withLock, same]
  split
  · exact proceed_forget c caller t
  · rfl

theorem enter_forget
    : t.forget.enter c caller = (t.enter c.recorded caller).forget := by
  have same : t.forget.content caller = t.content caller := rfl
  have free : (t.forget.loading.isNone && t.forget.waiting.isEmpty)
      = (t.loading.isNone && t.waiting.isEmpty) := rfl
  rw [enter, enter, same, free]
  split
  · exact proceed_forget c caller t
  · split <;> rfl

theorem arrive_forget
    : t.forget.arrive c caller = (t.arrive c.recorded caller).forget := by
  unfold arrive
  split
  · dsimp only
    generalize counted : { t with scene := t.scene.count "query_service.questions" } = t₀
    have same : { t.forget with scene := t.forget.scene.count "query_service.questions" }
        = t₀.forget := by rw [← counted]; rfl
    rw [same]
    split
    · exact giveUp_forget caller t₀ _
    · exact enter_forget c caller t₀
  · exact enter_forget c caller t

theorem deliver_forget
    : t.forget.deliver c = (t.deliver c.recorded).forget := by
  have same : t.forget.loading = t.loading := rfl
  rw [deliver, deliver, same]
  cases t.loading with
  | none => rfl
  | some loading =>
      have accepted : t.forget.scene.accept loading.outcome
          = Scene.forgetting (t.scene.accept loading.outcome) :=
        t.scene.accept_forget loading.outcome
      dsimp only
      rw [accepted]
      generalize t.scene.accept loading.outcome = done
      obtain ⟨result, scene⟩ := done
      cases result with
      | error error => exact giveUp_forget loading.caller { t with scene, loading := none } error
      | ok _ => exact proceed_forget c loading.caller { t with scene, loading := none }

theorem wake_forget
    : t.forget.wake c = (t.wake c.recorded).forget := by
  have loading : t.forget.loading = t.loading := rfl
  have waiting : t.forget.waiting = t.waiting := rfl
  unfold wake
  rw [loading, waiting]
  split
  · next caller rest free _ => exact withLock_forget c caller { t with waiting := rest }
  · rfl

/-- Writing contacts down changes nothing for the calls under way. -/
theorem step_forget (event : Event)
    : t.forget.step c event = (t.step c.recorded event).forget := by
  cases event with
  | arrival caller => exact arrive_forget c caller t
  | delivery => exact deliver_forget c t
  | wakening => exact wake_forget c t

end Traffic

end RideQuestions
