import RideQuestions.Proofs.Query.Vocabulary
import RideQuestions.Proofs.Service.Answering
import RideQuestions.Proofs.Service.Run

/-! The gate before the store, with any number of calls under way. Whatever happens next, at most
one query is executed, and then the call that acts is a question for which it was cleared and that
gets its answer, so no question executes another.
-/

namespace RideQuestions

open Calendar Query

variable {W : Type}

namespace Traffic

variable {c : Collaborators W} {t t' : Traffic (W × List Contact)} {caller : Caller}
variable {event : Event} {config : CompilerConfig} {latest : Option Schema}

/-- What the calls under way come to by one event, with some contacts. At most one query is
executed, for a question that it was cleared for and that has got its answer with it; a question
that arrives and says nothing leads to no contact at all. A question is entered in the books when it
arrives, and once more when it has got its answer. -/
structure Gated (c : Collaborators W) (config : CompilerConfig) (event : Event)
    (t t' : Traffic (W × List Contact)) (contacts : List Contact) : Prop where
  log : t'.scene.log = t.scene.log ++ contacts
  once : contacts.countP Contact.isQuery ≤ 1
  cleared : ∀ text parameters outcome, .query text parameters outcome ∈ contacts →
    ∃ number question now result,
      t.actor? event = some ⟨number, .ask question now⟩
      ∧ t'.replies = t.replies ++ [(number, .answered result)]
      ∧ Scene.Cleared c config question now t'.scene.service.published? text parameters
  silent : ∀ number question now, event = .arrival ⟨number, .ask question now⟩ →
    (∀ asked, question = some asked → Text.isBlankText asked = true) → contacts = []
  books : c.Discreet →
    t'.scene.metrics.counter "query_service.questions"
        = t.scene.metrics.counter "query_service.questions" + (if event.asks then 1 else 0)
      ∧ t'.scene.metrics.total Metrics.isOutcome + t.answered
        = t.scene.metrics.total Metrics.isOutcome + t'.answered

/-- A question that says something and finds a schema is answered along one of its paths. -/
theorem proceed_course {number : Nat} {question : Option String} {now : Instant}
    (stands : t.scene.service.StandsAt config latest)
    (loaded : t.scene.service.loaded = true) (sound : (Call.ask question now).Sound)
    (c : Collaborators W)
    : ∃ contacts result,
        Scene.Course c config question now contacts
          (t.proceed c.recorded ⟨number, .ask question now⟩).scene.service.published? result
        ∧ t.scene.Account c (t.proceed c.recorded ⟨number, .ask question now⟩).scene contacts
          { outcomes := 1 }
        ∧ (t.proceed c.recorded ⟨number, .ask question now⟩).replies
          = t.replies ++ [(number, .answered result)] := by
  have there : latest.isSome = true := stands.loaded.symm.trans loaded
  obtain ⟨schema, rfl⟩ := Option.isSome_iff_exists.mp there
  obtain ⟨asked, said⟩ := sound question now rfl
  obtain ⟨text, _⟩ := Scene.askable_eq_ok_iff.mp said
  obtain ⟨contacts, course, account⟩ :=
    Scene.respond_course (c := c) stands now said [] (by simp)
  have given : question.getD "" = asked := by rw [text, Option.getD_some]
  rw [proceed_ask rfl, reply_scene, reply_replies, given]
  dsimp only
  exact ⟨contacts, _, course, account, rfl⟩

/-- A turn comes to what its end comes to. -/
theorem Opens.gated {between : Traffic (W × List Contact)} {contacts : List Contact}
    {answers : Nat} (opens : t.Opens event caller between)
    (account : between.scene.Account c t'.scene contacts { outcomes := answers })
    (answered : t'.answered = between.answered + answers)
    (once : contacts.countP Contact.isQuery ≤ 1)
    (cleared : ∀ text parameters outcome, .query text parameters outcome ∈ contacts →
      ∃ question now result, caller.call = .ask question now
        ∧ t'.replies = between.replies ++ [(caller.number, .answered result)]
        ∧ Scene.Cleared c config question now t'.scene.service.published? text parameters)
    (silent : caller.call.Sound ∨ contacts = [])
    : Gated c config event t t' contacts := by
  have whole := (opens.account c).trans account
  refine ⟨whole.contacts, once, ?_, ?_, ?_⟩
  · intro text parameters outcome executed
    obtain ⟨question, now, result, call, replies, clear⟩ := cleared text parameters outcome executed
    refine ⟨caller.number, question, now, result, ?_, ?_, clear⟩
    · rw [opens.actor, ← call]
    · rw [replies, opens.replies]
  · rintro number question now rfl blank
    rcases silent with sound | nothing
    · obtain rfl : caller = ⟨number, .ask question now⟩ := Option.some.inj opens.actor.symm
      obtain ⟨asked, said⟩ := sound question now rfl
      obtain ⟨text, loud⟩ := Scene.askable_eq_ok_iff.mp said
      rw [blank asked text] at loud
      cases loud
    · exact nothing
  · intro discreet
    have books := whole.entries discreet
    refine ⟨books.questions, ?_⟩
    rw [books.outcomes, answered, opens.answered]
    change _ + (0 + answers) + _ = _
    omega

/-- From every state that calls lead to, every event passes the gate. -/
theorem Reachable.step_gated (reachable : t.Reachable config) (c : Collaborators W)
    (event : Event)
    : ∃ contacts, Gated c config event t (t.step c.recorded event) contacts := by
  obtain ⟨sound, latest, stands⟩ := reachable.keeps
  rcases step_cases sound c.recorded event with
    ⟨nobody, same⟩ | ⟨caller, between, opens, closes⟩
  · rw [same]
    exact ⟨[], (List.append_nil _).symm, Nat.zero_le 1, by simp, fun _ _ _ _ _ => rfl,
      fun _ => ⟨by rw [asks_of_nobody nobody]; rfl, rfl⟩⟩
  · have stands := opens.stands stands
    generalize t.step c.recorded event = t' at closes ⊢
    cases closes with
    | proceed sound loaded =>
        obtain ⟨number, call⟩ := caller
        cases call with
        | ask question now =>
            obtain ⟨contacts, result, course, account, replies⟩ :=
              proceed_course stands loaded sound c
            refine ⟨contacts, opens.gated account ?_ course.countP_isQuery_le ?_ (.inl sound)⟩
            · rw [Traffic.answered, replies, List.countP_append]
              rfl
            · intro text parameters outcome executed
              exact ⟨question, now, result, rfl, replies, course.cleared executed⟩
        | ensure | reload =>
            rw [proceed_of_silent rfl]
            exact ⟨[], opens.gated (.refl c between.scene) List.countP_append (Nat.zero_le 1)
              (by simp) (.inl sound)⟩
    | giveUp error =>
        obtain ⟨reply, ends, _⟩ := giveUp_ends c error caller between
        exact ⟨[], opens.gated ends.account ends.answered (Nat.zero_le 1) (by simp) (.inr rfl)⟩
    | start sound =>
        exact ⟨_, opens.gated (Scene.account_askSchema c between.scene).1 rfl
          (List.countP_le_length.trans (by simp)) (by simp) (.inl sound)⟩
    | wait sound =>
        exact ⟨[], opens.gated (.refl c between.scene) rfl (Nat.zero_le 1) (by simp) (.inl sound)⟩

/-- From every state that calls lead to, a question executes at most one query, and only one that
was cleared for it, whether the question runs without a break or is interrupted while it waits for
the lock or for the provider. It is entered in the books once as a question and once as an answer
or an error. -/
theorem questions_gated (reachable : t.Reachable config) (c : Collaborators W)
    : (∀ question now, ∃ contacts,
        Scene.Answered c config question now t.scene (t.scene.answer c.recorded question now).2
          contacts (t.scene.answer c.recorded question now).1)
      ∧ ∀ event, ∃ contacts, Gated c config event t (t.step c.recorded event) contacts := by
  obtain ⟨latest, stands⟩ := reachable.stands
  exact ⟨Scene.answer_answered stands c, reachable.step_gated c⟩

/-- The first question to a new service that has the ride tables at hand. -/
def firstAnswer (config : CompilerConfig)
    : Except NumberError Response × Scene (Unit × List Contact) :=
  (opening config {} ()).scene.answer
    (Collaborators.giving (.ok (some Compiler.rideSchema))).recorded
    (some "how far was the longest trip") Compiler.midyear

/-- The first question passes the gate and is entered in the books. -/
theorem questions_gated_first
    : ∃ contacts,
        Scene.Answered (Collaborators.giving (.ok (some Compiler.rideSchema))) {}
          (some "how far was the longest trip") Compiler.midyear (opening {} {} ()).scene
          (firstAnswer {}).2 contacts (firstAnswer {}).1
        ∧ (firstAnswer {}).2.metrics.counter "query_service.questions" = 1
        ∧ (firstAnswer {}).2.metrics.total Metrics.isOutcome = 1 := by
  obtain ⟨alone, _⟩ := questions_gated (t := opening {} {} ()) (.start {} ((), []))
    (Collaborators.giving (.ok (some Compiler.rideSchema)))
  obtain ⟨contacts, answered⟩ := alone (some "how far was the longest trip") Compiler.midyear
  rw [← firstAnswer] at answered
  obtain ⟨questions, outcomes⟩ := answered.books (Collaborators.giving_discreet _)
  exact ⟨contacts, answered, questions, outcomes⟩

end Traffic

end RideQuestions
