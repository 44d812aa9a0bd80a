import RideQuestions.Proofs.Service.Contact

/-! What one question leads to. Whatever state the service has come to, a question executes at most
one query, and only one that was compiled from it on the published schema and that the guard has
approved. It enters the books once as a question and once as an answer or an error, on every path.
-/

namespace RideQuestions

open Calendar Query

variable {W : Type} {c : Collaborators W} {config : CompilerConfig}

namespace Scene

-----------------------------------------------------------------------------------------
-- What stands before a query
-----------------------------------------------------------------------------------------

theorem askable_eq_ok_iff {question : Option String} {asked : String}
    : askable question = .ok asked ↔ question = some asked ∧ Text.isBlankText asked = false := by
  cases question with
  | none => simp [askable]
  | some text =>
      cases blank : Text.isBlankText text with
      | true =>
          simp only [askable, blank, if_true, reduceCtorEq, Option.some.injEq, false_iff]
          rintro ⟨rfl, said⟩
          exact absurd (blank.symm.trans said) (by decide)
      | false =>
          simp only [askable, blank, Bool.false_eq_true, if_false, Except.ok.injEq,
            Option.some.injEq]
          constructor
          · rintro rfl
            exact ⟨rfl, blank⟩
          · exact And.left

/-- What cannot be asked is no text or a blank one. -/
theorem silent_of_askable {question : Option String} {error : ServiceError}
    (refused : askable question = .error error)
    : (∀ asked, question = some asked → Text.isBlankText asked = true)
      ∧ error = .saying .emptyInput "" := by
  cases question with
  | none =>
      obtain rfl := Except.error.inj refused
      exact ⟨by rintro _ ⟨⟩, rfl⟩
  | some text =>
      cases blank : Text.isBlankText text with
      | true =>
          rw [askable, if_pos blank] at refused
          obtain rfl := Except.error.inj refused
          refine ⟨?_, rfl⟩
          rintro _ ⟨⟩
          exact blank
      | false =>
          rw [askable, if_neg (by simp [blank])] at refused
          exact absurd refused (by simp)

/-- A query is approved only if the guard finds its text and its values valid together. -/
theorem inspect_of_approve {query : CompiledQuery} (approved : approve c query = .ok ())
    : ∃ verdict, c.inspect query.text query.parameters = .ok verdict ∧ verdict.isValid = true := by
  unfold approve at approved
  split at approved
  · exact absurd approved (by simp)
  · split at approved
    · exact absurd approved (by simp)
    · next verdict inspected =>
        refine ⟨verdict, inspected, ?_⟩
        by_contra invalid
        rw [if_neg invalid] at approved
        exact absurd approved (by simp)

-----------------------------------------------------------------------------------------
-- The paths of a question
-----------------------------------------------------------------------------------------

/-- The ways in which a service gets its schema: it is there, the provider gives it now, or it is
unavailable. -/
inductive Supplied (config : CompilerConfig)
    : List Contact → Except ServiceError Unit → Service → Prop where
  | before {s : Service} {schema : Schema} (stands : s.StandsAt config (some schema))
      : Supplied config [] (.ok ()) s
  | now {s : Service} {schema : Schema} (outcome : Except Fault (Option Schema))
      (stands : s.StandsAt config (some schema))
      : Supplied config [.schema outcome] (.ok ()) s
  | refused {s : Service} {outcome : Except Fault (Option Schema)} {error : ServiceError}
      (unavailable : received outcome = .error error)
      : Supplied config [.schema outcome] (.error error) s

/-- The provider is asked at most once, and not at all for a schema that is there. -/
theorem ensureLoaded_supplied {s : Scene (W × List Contact)} {latest : Option Schema}
    (stands : s.service.StandsAt config latest) (c : Collaborators W)
    : ∃ contacts loads,
        Supplied config contacts (s.ensureLoaded c.recorded).1 (s.ensureLoaded c.recorded).2.service
        ∧ s.Account c (s.ensureLoaded c.recorded).2 contacts { loads } := by
  by_cases loaded : s.service.loaded = true
  · have there : latest.isSome = true := stands.loaded.symm.trans loaded
    obtain ⟨schema, rfl⟩ := Option.isSome_iff_exists.mp there
    rw [ensureLoaded, if_pos loaded]
    exact ⟨[], 0, .before stands, .refl c s⟩
  · rw [ensureLoaded, if_neg loaded, reload]
    obtain ⟨asked, same⟩ := account_askSchema c s
    generalize s.askSchema c.recorded = answered at asked same
    obtain ⟨outcome, s₁⟩ := answered
    have accepted := asked.trans (s₁.account_accept outcome)
    refine ⟨[.schema outcome], _, ?_, accepted⟩
    cases given : usable? outcome with
    | none =>
        obtain ⟨error, unavailable, _, unchanged⟩ := accept_of_unusable (s := s₁) given
        dsimp only
        rw [unchanged]
        exact .refused unavailable
    | some schema =>
        have published : s₁.service.StandsAt config latest := same ▸ stands
        dsimp only
        rw [accept_of_usable given]
        exact .now outcome (published.publish (usable?_eq_some_iff.mp given).2)

/-- The paths that a question can take: the contacts on the way, the schema that is published at
the end, and what is returned. -/
inductive Course (c : Collaborators W) (config : CompilerConfig) (question : Option String)
    (now : Instant) : List Contact → Option Schema → Except NumberError Response → Prop where
  | unaskable {published : Option Schema} {error : ServiceError}
      (refused : askable question = .error error)
      : Course c config question now [] published (.ok (.failure error.message))
  | unavailable {published : Option Schema} {asked : String} {error : ServiceError}
      {outcome : Except Fault (Option Schema)} (sound : askable question = .ok asked)
      (refused : received outcome = .error error)
      : Course c config question now [.schema outcome] published (.ok (.failure error.message))
  | responded {asked : String} {schema : Schema} {loading contacts : List Contact}
      {result : Except NumberError Response} (sound : askable question = .ok asked)
      (loads : ∀ contact ∈ loading, contact.isQuery = false) (columns : schema.columns ≠ [])
      (response : Responded c ((Compiler.fresh config (some schema)).compile asked now).1 contacts
        result)
      : Course c config question now (loading ++ contacts) (some schema) result

/-- A question for which the schema is there is answered as on a compiler that has done nothing but
publish that schema. -/
theorem respond_course {s : Scene (W × List Contact)} {schema : Schema} {asked : String}
    {question : Option String} (stands : s.service.StandsAt config (some schema)) (now : Instant)
    (sound : askable question = .ok asked) (loading : List Contact)
    (loads : ∀ contact ∈ loading, contact.isQuery = false)
    : ∃ contacts,
        Course c config question now (loading ++ contacts)
          (s.respond c.recorded asked now).2.service.published? (s.respond c.recorded asked now).1
        ∧ s.Account c (s.respond c.recorded asked now).2 contacts { outcomes := 1 } := by
  obtain ⟨contacts, response, account⟩ := s.respond_responded c asked now
  rw [stands.compiler.compile_fst, ← (Compiler.standsAt_fresh config (some schema)).compile_fst]
    at response
  rw [(StandsAt.respond stands asked now).published]
  exact ⟨contacts, .responded sound loads (stands.usable schema rfl) response, account⟩

/-- Every question takes one of the paths, and is entered in the books once as a question and once
as an answer or an error. -/
theorem answer_course {s : Scene (W × List Contact)} {latest : Option Schema}
    (stands : s.service.StandsAt config latest) (c : Collaborators W) (question : Option String)
    (now : Instant)
    : ∃ contacts loads,
        Course c config question now contacts
          (s.answer c.recorded question now).2.service.published?
          (s.answer c.recorded question now).1
        ∧ s.Account c (s.answer c.recorded question now).2 contacts
          { questions := 1, outcomes := 1, loads } := by
  have counted : s.Account c (s.count "query_service.questions") [] { questions := 1 } :=
    account_of_log rfl s.metrics.adds_question
  have stands : (s.count "query_service.questions").service.StandsAt config latest := stands
  rw [answer]
  generalize s.count "query_service.questions" = s₀ at counted stands
  dsimp only
  cases sound : askable question with
  | error error => exact ⟨[], 0, .unaskable sound, counted.trans (s₀.account_fail _)⟩
  | ok asked =>
      obtain ⟨loading, loads, supplied, loaded⟩ := ensureLoaded_supplied stands c
      dsimp only
      generalize s₀.ensureLoaded c.recorded = ensured at supplied loaded
      obtain ⟨result, s₁⟩ := ensured
      dsimp only at supplied loaded
      have arrived := counted.trans loaded
      cases supplied with
      | refused unavailable =>
          exact ⟨_, _, .unavailable sound unavailable, arrived.trans (s₁.account_fail _)⟩
      | before stands =>
          obtain ⟨contacts, course, account⟩ :=
            respond_course (c := c) stands now sound [] (by simp)
          dsimp only
          exact ⟨_, _, course, arrived.trans account⟩
      | now outcome stands =>
          obtain ⟨contacts, course, account⟩ :=
            respond_course (c := c) stands now sound [.schema outcome] (by simp [Contact.isQuery])
          dsimp only
          exact ⟨_, _, course, arrived.trans account⟩

-----------------------------------------------------------------------------------------
-- What every path has in common
-----------------------------------------------------------------------------------------

/-- A query that may be executed for a question: the question says something, a schema is published,
the query is what the question compiles to on a compiler that has done nothing but publish that
schema, and the guard finds its text and its values valid together. -/
def Cleared (c : Collaborators W) (config : CompilerConfig) (question : Option String)
    (now : Instant) (published : Option Schema) (text : String) (parameters : List Value) : Prop :=
  ∃ asked schema query verdict, question = some asked ∧ Text.isBlankText asked = false
    ∧ published = some schema ∧ schema.columns ≠ []
    ∧ ((Compiler.fresh config (some schema)).compile asked now).1 = .ok query
    ∧ text = query.text ∧ parameters = query.parameters
    ∧ c.inspect text parameters = .ok verdict ∧ verdict.isValid = true

/-- What has gone wrong with a question that was refused, by the contacts on the way and the schema
that is published. -/
inductive Fails (c : Collaborators W) (config : CompilerConfig) (question : Option String)
    (now : Instant) (contacts : List Contact) (published : Option Schema) : Fault → Prop where
  /-- It is no text, or a blank one. -/
  | unaskable (silent : ∀ asked, question = some asked → Text.isBlankText asked = true)
      : Fails c config question now contacts published (.service (.saying .emptyInput ""))
  /-- The provider gave no schema for it. -/
  | unavailable {outcome : Except Fault (Option Schema)} {error : ServiceError}
      (contact : .schema outcome ∈ contacts) (refused : received outcome = .error error)
      : Fails c config question now contacts published (.service error)
  /-- It is no query on the published schema. -/
  | uncompiled {asked : String} {schema : Schema} {error : CompileError}
      (text : question = some asked) (there : published = some schema)
      (refused : ((Compiler.fresh config (some schema)).compile asked now).1 = .error error)
      : Fails c config question now contacts published (compileFault error)
  /-- The guard does not approve its query. -/
  | unapproved {asked : String} {schema : Schema} {query : CompiledQuery} {fault : Fault}
      (text : question = some asked) (there : published = some schema)
      (compiled : ((Compiler.fresh config (some schema)).compile asked now).1 = .ok query)
      (refused : approve c query = .error fault)
      : Fails c config question now contacts published fault
  /-- The store fails to execute its query. -/
  | unexecuted {text : String} {parameters : List Value} {fault : Fault}
      (contact : .query text parameters (.error fault) ∈ contacts)
      : Fails c config question now contacts published fault

section Paths

variable {question : Option String} {now : Instant} {contacts : List Contact}
variable {published : Option Schema} {result : Except NumberError Response}
variable {compiled : Except CompileError CompiledQuery}

theorem Responded.countP_isQuery_le (h : Responded c compiled contacts result)
    : contacts.countP Contact.isQuery ≤ 1 := by
  cases h <;> exact List.countP_le_length.trans (by simp)

/-- A query is executed only as it was compiled and approved. -/
theorem Responded.approved (h : Responded c compiled contacts result) {text : String}
    {parameters : List Value} {outcome : Except Fault (List Row)}
    (executed : .query text parameters outcome ∈ contacts)
    : ∃ query, compiled = .ok query ∧ approve c query = .ok ()
      ∧ text = query.text ∧ parameters = query.parameters := by
  cases h with
  | uncompiled => exact absurd executed List.not_mem_nil
  | unapproved => exact absurd executed List.not_mem_nil
  | unexecuted query fault made approved =>
      obtain ⟨rfl, rfl, _⟩ := Contact.query.inj (List.mem_singleton.mp executed)
      exact ⟨query, made, approved, rfl, rfl⟩
  | executed query rows made approved =>
      obtain ⟨rfl, rfl, _⟩ := Contact.query.inj (List.mem_singleton.mp executed)
      exact ⟨query, made, approved, rfl, rfl⟩

/-- At most one query is executed on any path. -/
theorem Course.countP_isQuery_le (h : Course c config question now contacts published result)
    : contacts.countP Contact.isQuery ≤ 1 := by
  cases h with
  | unaskable => decide
  | unavailable => exact List.countP_le_length.trans (by simp)
  | responded _ loads _ response =>
      rw [List.countP_append, List.countP_eq_zero.mpr (by simpa using loads), Nat.zero_add]
      exact response.countP_isQuery_le

/-- Whatever is executed was cleared for the question on the published schema. -/
theorem Course.cleared (h : Course c config question now contacts published result) {text : String}
    {parameters : List Value} {outcome : Except Fault (List Row)}
    (executed : .query text parameters outcome ∈ contacts)
    : Cleared c config question now published text parameters := by
  cases h with
  | unaskable => exact absurd executed List.not_mem_nil
  | unavailable => exact absurd (List.mem_singleton.mp executed) (by simp)
  | @responded asked schema _ _ _ sound loads columns response =>
      obtain ⟨given, said⟩ := askable_eq_ok_iff.mp sound
      rcases List.mem_append.mp executed with loading | answering
      · exact absurd (loads _ loading) (by simp [Contact.isQuery])
      · obtain ⟨query, made, approved, rfl, rfl⟩ := response.approved answering
        obtain ⟨verdict, inspected, valid⟩ := inspect_of_approve approved
        exact ⟨asked, schema, query, verdict, given, said, rfl, columns, made, rfl, rfl,
          inspected, valid⟩

/-- What says nothing leads to no contact. -/
theorem Course.contacts_eq_nil (h : Course c config question now contacts published result)
    (silent : ∀ asked, question = some asked → Text.isBlankText asked = true)
    : contacts = [] := by
  have unsound : ∀ asked, askable question ≠ .ok asked := by
    intro asked sound
    obtain ⟨text, said⟩ := askable_eq_ok_iff.mp sound
    rw [silent asked text] at said
    exact absurd said (by decide)
  cases h with
  | unaskable => rfl
  | unavailable sound => exact absurd sound (unsound _)
  | responded sound => exact absurd sound (unsound _)

/-- A response names the query that was executed, or nothing but what has gone wrong. -/
theorem Course.response (h : Course c config question now contacts published result)
    {response : Response} (returned : result = .ok response)
    : (response.error = none
        ∧ ∃ parameters rows, .query response.query parameters (.ok rows) ∈ contacts)
      ∨ ∃ fault, Fails c config question now contacts published fault
        ∧ response = { query := "", result := .null, error := some fault.text } := by
  cases h with
  | unaskable refused =>
      obtain ⟨silent, rfl⟩ := silent_of_askable refused
      obtain rfl := Except.ok.inj returned
      exact .inr ⟨_, .unaskable silent, rfl⟩
  | unavailable _ refused =>
      obtain rfl := Except.ok.inj returned
      exact .inr ⟨_, .unavailable (List.mem_singleton_self _) refused, rfl⟩
  | @responded asked schema loading contacts _ sound _ _ response =>
      obtain ⟨text, _⟩ := askable_eq_ok_iff.mp sound
      cases response with
      | uncompiled error refused =>
          obtain rfl := Except.ok.inj returned
          exact .inr ⟨_, .uncompiled text rfl refused, rfl⟩
      | unapproved query fault made refused =>
          obtain rfl := Except.ok.inj returned
          exact .inr ⟨fault, .unapproved text rfl made refused, rfl⟩
      | unexecuted query fault _ _ =>
          obtain rfl := Except.ok.inj returned
          exact .inr ⟨fault, .unexecuted (List.mem_append_right _ (List.mem_singleton_self _)), rfl⟩
      | executed query rows _ _ =>
          cases collapsed : Answer.ofRows rows query.intent with
          | error reason => rw [collapsed] at returned; exact absurd returned (by simp [Except.map])
          | ok value =>
              rw [collapsed] at returned
              obtain rfl := Except.ok.inj returned
              exact .inl ⟨rfl, query.parameters, rows,
                List.mem_append_right _ (List.mem_singleton_self _)⟩

end Paths

/-- What one question comes to, from a scene to another with some contacts. At most one query is
executed, and only one that was cleared for the question; one that says nothing leads to no contact
at all. It is entered in the books once as a question and once as an answer or an error. A response
names the query that was executed and no error, or nothing but what has gone wrong. -/
structure Answered (c : Collaborators W) (config : CompilerConfig) (question : Option String)
    (now : Instant) (before after : Scene (W × List Contact)) (contacts : List Contact)
    (result : Except NumberError Response) : Prop where
  log : after.log = before.log ++ contacts
  once : contacts.countP Contact.isQuery ≤ 1
  cleared : ∀ text parameters outcome, .query text parameters outcome ∈ contacts →
    Cleared c config question now after.service.published? text parameters
  silent : (∀ asked, question = some asked → Text.isBlankText asked = true) → contacts = []
  books : c.Discreet →
    after.metrics.counter "query_service.questions"
        = before.metrics.counter "query_service.questions" + 1
      ∧ after.metrics.total Metrics.isOutcome = before.metrics.total Metrics.isOutcome + 1
  response : ∀ response, result = .ok response →
    (response.error = none
      ∧ ∃ parameters rows, .query response.query parameters (.ok rows) ∈ contacts)
    ∨ ∃ fault, Fails c config question now contacts after.service.published? fault
      ∧ response = { query := "", result := .null, error := some fault.text }

/-- Wherever the service stands, a question that runs without a break comes to no more than that. -/
theorem answer_answered {s : Scene (W × List Contact)} {latest : Option Schema}
    (stands : s.service.StandsAt config latest) (c : Collaborators W) (question : Option String)
    (now : Instant)
    : ∃ contacts,
        Answered c config question now s (s.answer c.recorded question now).2 contacts
          (s.answer c.recorded question now).1 := by
  obtain ⟨contacts, loads, course, account⟩ := answer_course stands c question now
  exact ⟨contacts, {
    log := account.contacts,
    once := course.countP_isQuery_le,
    cleared := fun _ _ _ executed => course.cleared executed,
    silent := course.contacts_eq_nil,
    books := fun discreet =>
      ⟨(account.entries discreet).questions, (account.entries discreet).outcomes⟩,
    response := fun _ returned => course.response returned
  }⟩

end Scene

end RideQuestions
