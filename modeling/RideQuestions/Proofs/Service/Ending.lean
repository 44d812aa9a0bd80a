import RideQuestions.Proofs.Service.Collapse
import RideQuestions.Proofs.Service.Serving

/-! How a question ends, whatever the service and those that it works with do. Every failure on the
way is a response; only rows that cannot be collapsed leave the question without one.
-/

namespace RideQuestions

open Calendar Query

variable {W : Type}

/-- The query that a contact has executed, with its values and its rows. -/
def Contact.fulfilled? : Contact → Option (String × List Value × List Row)
  | query text parameters (.ok rows) => some (text, parameters, rows)
  | _ => none

namespace Scene

-----------------------------------------------------------------------------------------
-- On the way to an end
-----------------------------------------------------------------------------------------

/-- One scene follows another with some more contacts, and with no end of a question in the books as
long as only the service enters anything there. -/
structure Passage (c : Collaborators W) (before after : Scene (W × List Contact))
    (contacts : List Contact) : Prop where
  log : after.log = before.log ++ contacts
  outcomes : c.Discreet →
    after.metrics.select Metrics.isOutcome = before.metrics.select Metrics.isOutcome

variable {c : Collaborators W} {s s' s'' : Scene (W × List Contact)}
variable {contacts more : List Contact}

theorem Passage.trans (h : s.Passage c s' contacts) (next : s'.Passage c s'' more)
    : s.Passage c s'' (contacts ++ more) where
  log := by rw [next.log, h.log, List.append_assoc]
  outcomes := fun discreet => (next.outcomes discreet).trans (h.outcomes discreet)

/-- What keeps the log and enters no end is no contact. -/
theorem passage_of_log (log : s'.log = s.log)
    (same : s'.metrics.select Metrics.isOutcome = s.metrics.select Metrics.isOutcome)
    : s.Passage c s' [] :=
  ⟨log.trans (List.append_nil _).symm, fun _ => same⟩

theorem passage_askSchema (c : Collaborators W) (s : Scene (W × List Contact))
    : s.Passage c (s.askSchema c.recorded).2 [.schema (s.askSchema c.recorded).1] :=
  ⟨rfl, fun discreet => Metrics.select_mono (fun _ => Metrics.isOwn_of_isOutcome)
    (discreet.load s.metrics s.world.1)⟩

theorem passage_accept (c : Collaborators W) (outcome : Except Fault (Option Schema))
    (s : Scene (W × List Contact))
    : s.Passage c (s.accept outcome).2 [] := by
  cases given : usable? outcome with
  | none =>
      obtain ⟨_, _, _, same⟩ := accept_of_unusable (s := s) given
      rw [same]
      exact passage_of_log rfl rfl
  | some schema =>
      rw [accept_of_usable given]
      exact passage_of_log rfl (Metrics.select_count_of_not (by decide))

/-- Nothing is executed while the schema is loaded. -/
theorem passage_ensureLoaded (c : Collaborators W) (s : Scene (W × List Contact))
    : ∃ contacts, s.Passage c (s.ensureLoaded c.recorded).2 contacts
      ∧ contacts.filterMap Contact.fulfilled? = [] := by
  rw [ensureLoaded]
  split
  · exact ⟨[], passage_of_log rfl rfl, rfl⟩
  · rw [reload]
    have asked := passage_askSchema c s
    generalize s.askSchema c.recorded = answered at asked
    obtain ⟨outcome, s₁⟩ := answered
    exact ⟨_, asked.trans (passage_accept c outcome s₁), rfl⟩

theorem passage_prepare (c : Collaborators W) (question : String) (now : Instant)
    (s : Scene (W × List Contact))
    : s.Passage c (s.prepare c.recorded question now).2 [] := by
  obtain ⟨_, _, world, metrics⟩ := compile_spec question now s
  rw [prepare_snd]
  refine passage_of_log (congrArg Prod.snd world) ?_
  rw [metrics]
  exact Metrics.select_track_of_not (by decide) (by decide)

theorem passage_execute (c : Collaborators W) (query : CompiledQuery)
    (s : Scene (W × List Contact))
    : s.Passage c (s.execute c.recorded query).2
        [.query query.text query.parameters (s.execute c.recorded query).1] :=
  ⟨rfl, fun discreet => Metrics.select_mono (fun _ => Metrics.isOwn_of_isOutcome)
    (discreet.execute query.text query.parameters
      (s.metrics.withTimer "query_service.execution") s.world.1)⟩

-----------------------------------------------------------------------------------------
-- The ends of a question
-----------------------------------------------------------------------------------------

theorem ending_error_iff {query : CompiledQuery} {rows : List Row}
    : (∃ reason, ending query (.ok rows) = .error reason)
      ↔ Answer.collapsible query.intent rows = false := by
  rw [← Answer.isOk_ofRows, ending]
  cases Answer.ofRows rows query.intent <;> simp [Except.map]

theorem ending_ok {query : CompiledQuery} {rows : List Row} {response : Response}
    (returned : ending query (.ok rows) = .ok response)
    : response.query = query.text ∧ response.error = none
      ∧ Answer.ofRows rows query.intent = .ok response.result := by
  rw [ending] at returned
  cases collapsed : Answer.ofRows rows query.intent with
  | error reason => rw [collapsed] at returned; exact absurd returned (by simp [Except.map])
  | ok value =>
      rw [collapsed] at returned
      obtain rfl := Except.ok.inj returned
      exact ⟨rfl, rfl, rfl⟩

/-- A question has led to rows: it was compiled, its query was approved, and that query, with its
values, is the one that was executed. -/
structure Fulfilled (c : Collaborators W) (compiler : Compiler) (asked : String) (now : Instant)
    (contacts : List Contact) (query : CompiledQuery) (rows : List Row) : Prop where
  compiled : (compiler.compile asked now).1 = .ok query
  approved : approve c query = .ok ()
  executed : contacts.filterMap Contact.fulfilled? = [(query.text, query.parameters, rows)]

/-- The same contacts lead to no other query and no other rows. -/
theorem Fulfilled.unique {compiler : Compiler} {asked : String} {now : Instant}
    {query query' : CompiledQuery} {rows rows' : List Row}
    (h : Fulfilled c compiler asked now contacts query rows)
    (h' : Fulfilled c compiler asked now contacts query' rows')
    : query = query' ∧ rows = rows' := by
  have once : [(query.text, query.parameters, rows)] = [(query'.text, query'.parameters, rows')] :=
    h.executed.symm.trans h'.executed
  simp only [List.cons.injEq, Prod.mk.injEq, and_true] at once
  exact ⟨Except.ok.inj (h.compiled.symm.trans h'.compiled), once.2.2⟩

/-- The ways in which a question ends: the contacts on the way, the name that the end is counted
under, and what is returned. -/
inductive Ends (c : Collaborators W) (compiler : Compiler) (question : Option String)
    (now : Instant) : List Contact → String → Except NumberError Response → Prop where
  /-- Something goes wrong before there are rows, and that is the answer. -/
  | failed {contacts : List Contact} (fault : Fault)
      (unfulfilled : contacts.filterMap Contact.fulfilled? = [])
      : Ends c compiler question now contacts (failureCounter fault) (.ok (.failure fault.text))
  | fulfilled {contacts : List Contact} (asked : String) (query : CompiledQuery) (rows : List Row)
      (given : question = some asked) (said : Text.isBlankText asked = false)
      (rowed : Fulfilled c compiler asked now contacts query rows)
      : Ends c compiler question now contacts "query_service.answered" (ending query (.ok rows))

/-- Contacts that execute nothing change no end behind them. -/
theorem Ends.behind {compiler : Compiler} {question : Option String} {now : Instant}
    {name : String} {result : Except NumberError Response}
    (h : Ends c compiler question now contacts name result)
    {before : List Contact} (unfulfilled : before.filterMap Contact.fulfilled? = [])
    : Ends c compiler question now (before ++ contacts) name result := by
  have same : (before ++ contacts).filterMap Contact.fulfilled?
      = contacts.filterMap Contact.fulfilled? := by
    rw [List.filterMap_append, unfulfilled, List.nil_append]
  cases h with
  | failed fault none => exact .failed fault (same.trans none)
  | fulfilled asked query rows given said rowed =>
      exact .fulfilled asked query rows given said
        ⟨rowed.compiled, rowed.approved, same.trans rowed.executed⟩

/-- Once the schema is loaded, a question ends with the last entry in the books. -/
theorem respond_ends (c : Collaborators W) {question : Option String} {asked : String}
    (sound : askable question = .ok asked) (now : Instant) (s : Scene (W × List Contact))
    : ∃ contacts name s', s.Passage c s' contacts
      ∧ (s.respond c.recorded asked now).2 = s'.count name
      ∧ Ends c s.service.compiler question now contacts name
          (s.respond c.recorded asked now).1 := by
  obtain ⟨given, said⟩ := askable_eq_ok_iff.mp sound
  have outcome := s.prepare_fst (c := c.recorded) asked now
  have prepared := passage_prepare c asked now s
  rw [respond]
  generalize s.prepare c.recorded asked now = made at outcome prepared
  obtain ⟨result, s₁⟩ := made
  cases compiled : (s.service.compiler.compile asked now).1 with
  | error error =>
      rw [compiled] at outcome
      obtain rfl : result = .error (compileFault error) := outcome
      exact ⟨[], _, s₁, prepared, rfl, .failed _ rfl⟩
  | ok query =>
      rw [compiled] at outcome
      change result = (approve c query).map fun _ => query at outcome
      cases approved : approve c query with
      | error fault =>
          rw [approved] at outcome
          obtain rfl : result = .error fault := outcome
          exact ⟨[], _, s₁, prepared, rfl, .failed fault rfl⟩
      | ok _ =>
          rw [approved] at outcome
          obtain rfl : result = .ok query := outcome
          have executed := prepared.trans (passage_execute c query s₁)
          dsimp only
          generalize s₁.execute c.recorded query = done at executed
          obtain ⟨rows, s₂⟩ := done
          cases rows with
          | error fault => exact ⟨_, _, s₂, executed, rfl, .failed fault rfl⟩
          | ok rows =>
              exact ⟨_, _, s₂, executed, rfl,
                .fulfilled asked query rows given said ⟨compiled, approved, rfl⟩⟩

/-- The compiler that a question is compiled with: the one that loading leaves. -/
def compilerFor (c : Collaborators W) (s : Scene W) : Compiler :=
  ((s.count "query_service.questions").ensureLoaded c).2.service.compiler

/-- Every question ends in one of the ways, with one last entry in the books. -/
theorem answer_ends (c : Collaborators W) (question : Option String) (now : Instant)
    (s : Scene (W × List Contact))
    : ∃ contacts name s', s.Passage c s' contacts
      ∧ (s.answer c.recorded question now).2 = s'.count name
      ∧ Ends c (s.compilerFor c.recorded) question now contacts name
          (s.answer c.recorded question now).1 := by
  have counted : s.Passage c (s.count "query_service.questions") [] :=
    passage_of_log rfl (Metrics.select_count_of_not (by decide))
  rw [answer, compilerFor]
  generalize s.count "query_service.questions" = s₀ at counted
  dsimp only
  cases sound : askable question with
  | error error => exact ⟨[], _, s₀, counted, rfl, .failed (.service error) rfl⟩
  | ok asked =>
      obtain ⟨loading, loaded, unfulfilled⟩ := passage_ensureLoaded c s₀
      dsimp only
      generalize s₀.ensureLoaded c.recorded = ensured at loaded
      obtain ⟨result, s₁⟩ := ensured
      have arrived := counted.trans loaded
      cases result with
      | error error =>
          exact ⟨_, _, s₁, arrived, rfl, .failed (.service error) unfulfilled⟩
      | ok _ =>
          obtain ⟨contacts, name, s', passage, last, ends⟩ := respond_ends c sound now s₁
          exact ⟨_, name, s', arrived.trans passage, last, ends.behind unfulfilled⟩

/-- Only rows that cannot be collapsed leave a question without a response, whatever state the
service has come to and whatever those that it works with do. A response holds the collapsed rows
and no error, or else no more than what has gone wrong before there were rows. -/
theorem answer_error_iff (c : Collaborators W) (question : Option String) (now : Instant)
    (s : Scene (W × List Contact))
    : ∃ contacts,
      (s.answer c.recorded question now).2.log = s.log ++ contacts
      ∧ ((∃ reason, (s.answer c.recorded question now).1 = .error reason)
        ↔ ∃ asked query rows, question = some asked
          ∧ Fulfilled c (s.compilerFor c.recorded) asked now contacts query rows
          ∧ Answer.collapsible (Intent.ofQuestion asked) rows = false)
      ∧ ∀ response, (s.answer c.recorded question now).1 = .ok response →
        (∃ fault : Fault, response = .failure fault.text
          ∧ contacts.filterMap Contact.fulfilled? = [])
        ∨ ∃ asked query rows, question = some asked
          ∧ Fulfilled c (s.compilerFor c.recorded) asked now contacts query rows
          ∧ response.query = query.text ∧ response.error = none
          ∧ Answer.ofRows rows (Intent.ofQuestion asked) = .ok response.result := by
  obtain ⟨contacts, name, s', passage, last, ends⟩ := answer_ends c question now s
  rw [last]
  refine ⟨contacts, passage.log, ?_⟩
  generalize (s.answer c.recorded question now).1 = result at ends
  cases ends with
  | failed fault unfulfilled =>
      refine ⟨⟨by rintro ⟨_, ⟨⟩⟩, ?_⟩, ?_⟩
      · rintro ⟨_, _, _, _, rowed, _⟩
        exact absurd (unfulfilled.symm.trans rowed.executed) (by simp)
      · rintro response ⟨⟩
        exact .inl ⟨fault, rfl, unfulfilled⟩
  | fulfilled asked query rows given said rowed =>
      have intent := Compiler.compile_intent rowed.compiled
      refine ⟨?_, ?_⟩
      · rw [ending_error_iff, intent]
        constructor
        · intro stuck
          exact ⟨asked, query, rows, given, rowed, stuck⟩
        · rintro ⟨other, again, others, same, twice, stuck⟩
          obtain rfl := Option.some.inj (given.symm.trans same)
          obtain rfl := (rowed.unique twice).2
          exact stuck
      · intro response returned
        obtain ⟨text, none, collapsed⟩ := ending_ok returned
        rw [intent] at collapsed
        exact .inr ⟨asked, query, rows, given, rowed, text, none, collapsed⟩

/-- An average that is no number leaves its question without a response. -/
theorem answer_error_average
    : (answer (.serving Compiler.rideSchema (.ok [[("average", .float Number.Binary64.nan)]]))
        (some "average trip duration") Compiler.midyear
        { service := .new {}, world := () }).1 = .error .floatNaN := by
  obtain ⟨query, intent, ends⟩ := answer_serving {} Compiler.rideSchema "average trip duration"
    Compiler.midyear (.ok [[("average", .float Number.Binary64.nan)]]) (by decide) (by decide)
    Compiler.rideSchema_plain.1 Compiler.rideSchema_plain.2 ⟨_, rfl⟩
  have average : Intent.ofQuestion "average trip duration" = .average := by decide +kernel
  rw [ends, ending, intent, average]
  rfl

end Scene

end RideQuestions
