import RideQuestions.Proofs.Service.Answering
import RideQuestions.Proofs.Service.Turn

/-! Calls that are alone. A call that arrives while nobody else is there has run to its end once the
provider has answered, and comes to what it comes to without a break.
-/

namespace RideQuestions

open Calendar Query

variable {W : Type}

/-- How a call ends that asks nothing. -/
def Reply.ofLoad : Except ServiceError Unit → Reply
  | .ok () => .done
  | .error error => .refused error

/-- A call that runs without a break. -/
def Scene.serve (c : Collaborators W) (s : Scene W) : Call → Reply × Scene W
  | .ensure => (.ofLoad (s.ensureLoaded c).1, (s.ensureLoaded c).2)
  | .reload => (.ofLoad (s.reload c).1, (s.reload c).2)
  | .ask question now => (.answered (s.answer c question now).1, (s.answer c question now).2)

namespace Traffic

variable {c : Collaborators W} {s : Scene W} {caller : Caller} {replies : List (Nat × Reply)}

/-- A call that goes on with a schema or without. -/
def goOn (c : Collaborators W) (caller : Caller) (replies : List (Nat × Reply))
    : Except ServiceError Unit × Scene W → Traffic W
  | (.ok (), scene) => ({ scene, replies } : Traffic W).proceed c caller
  | (.error error, scene) => ({ scene, replies } : Traffic W).giveUp error caller

theorem goOn_of_silent (silent : caller.call.asks = false)
    (ended : Except ServiceError Unit × Scene W)
    : goOn c caller replies ended
      = ({ scene := ended.2, replies } : Traffic W).reply caller (.ofLoad ended.1) := by
  obtain ⟨result, scene⟩ := ended
  cases result with
  | ok _ => rw [goOn, proceed_of_silent silent, Reply.ofLoad]
  | error error => rw [goOn, giveUp_of_silent silent, Reply.ofLoad]

/-- Nobody is there to get anything. -/
theorem deliver_of_free {t : Traffic W} (free : t.loading = none)
    : t.deliver c = t := by
  rw [deliver, free]

theorem deliver_startLoading
    : (({ scene := s, replies } : Traffic W).startLoading c caller).deliver c
      = goOn c caller replies (s.reload c) := by
  rw [deliver, startLoading, Scene.reload]
  dsimp only
  generalize (s.askSchema c).2.accept (s.askSchema c).1 = made
  obtain ⟨result, scene⟩ := made
  cases result <;> rfl

theorem deliver_enter (lazy : caller.call.reloads = false)
    : (({ scene := s, replies } : Traffic W).enter c caller).deliver c
      = goOn c caller replies (s.ensureLoaded c) := by
  rw [enter, content_eq, lazy, Scene.ensureLoaded]
  cases loaded : s.service.loaded with
  | true =>
      have kept := (proceed_keeps c caller ({ scene := s, replies } : Traffic W)).1
      rw [if_pos (by decide), if_pos rfl, deliver_of_free kept, goOn]
  | false => exact deliver_startLoading

/-- A question that is alone is answered as without a break. -/
theorem deliver_ask (c : Collaborators W) (number : Nat) (question : Option String) (now : Instant)
    (s : Scene W) (replies : List (Nat × Reply))
    : (({ scene := s, replies } : Traffic W).arrive c ⟨number, .ask question now⟩).deliver c
      = ({ scene := (s.answer c question now).2, replies } : Traffic W).reply
          ⟨number, .ask question now⟩ (.answered (s.answer c question now).1) := by
  rw [arrive, Scene.answer]
  dsimp only
  generalize s.count "query_service.questions" = s₀
  cases sound : Scene.askable question with
  | error error => exact deliver_of_free (giveUp_keeps error _ { scene := s₀, replies }).1
  | ok asked =>
      obtain ⟨text, _⟩ := Scene.askable_eq_ok_iff.mp sound
      have given : question.getD "" = asked := by rw [text, Option.getD_some]
      dsimp only
      rw [deliver_enter rfl]
      generalize s₀.ensureLoaded c = ended
      obtain ⟨result, s₁⟩ := ended
      cases result with
      | error error => rfl
      | ok _ =>
          dsimp only [goOn]
          rw [proceed_ask rfl, given]

/-- A call that is alone comes to what it comes to without a break. -/
theorem deliver_arrive (c : Collaborators W) (caller : Caller) (s : Scene W)
    (replies : List (Nat × Reply))
    : (({ scene := s, replies } : Traffic W).arrive c caller).deliver c
      = ({ scene := (s.serve c caller.call).2, replies } : Traffic W).reply caller
          (s.serve c caller.call).1 := by
  obtain ⟨number, call⟩ := caller
  cases call with
  | ensure => exact (deliver_enter rfl).trans (goOn_of_silent rfl _)
  | reload => exact deliver_startLoading.trans (goOn_of_silent rfl _)
  | ask question now => exact deliver_ask c number question now s replies

end Traffic

end RideQuestions
