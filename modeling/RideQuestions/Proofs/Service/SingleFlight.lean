import RideQuestions.Proofs.Query.Vocabulary
import RideQuestions.Proofs.Service.Run

/-! One load at a time. Over every run of a new service, the provider is asked again only when it
has answered before, calls that are content with any schema load one at most, and never again once
a schema was loaded.
-/

namespace RideQuestions

open Query

variable {W : Type}

/-- What the provider gave, each time that it was asked. -/
def Scene.supplies (s : Scene (W × List Contact)) : List (Except Fault (Option Schema)) :=
  s.log.filterMap Contact.supply?

/-- A load that succeeds for a call that does not want the schema anew. -/
def Loading.isInitial (loading : Loading) : Bool :=
  loading.succeeds && !loading.caller.call.reloads

namespace Scene

variable {c : Collaborators W} {s s' : Scene (W × List Contact)} {contacts : List Contact}
variable {entries : Metrics.Entries}

theorem Account.supplies (h : s.Account c s' contacts entries)
    : s'.supplies = s.supplies ++ contacts.filterMap Contact.supply? := by
  rw [Scene.supplies, h.contacts, List.filterMap_append]
  rfl

end Scene

namespace Traffic

variable {c : Collaborators W} {t t' : Traffic (W × List Contact)} {caller : Caller}
variable {event : Event} {config : CompilerConfig} {latest : Option Schema} {done : List Loading}

/-- A service with calls under way that stands at a schema after some loads. The provider was asked
for each of these and for the load under way, and for no other. At most one of them gave a schema
to a call that would have been content with any. Who loads without wanting the schema anew has
found none, and calls that are done have found one. -/
structure Flight (config : CompilerConfig) (latest : Option Schema) (done : List Loading)
    (t : Traffic (W × List Contact)) : Prop where
  stands : t.scene.service.StandsAt config latest
  asked : t.scene.supplies = (done ++ t.loading.toList).map Loading.outcome
  succeeded : latest.isSome = done.any Loading.succeeds
  once : done.countP Loading.isInitial ≤ 1
  holder : ∀ loading ∈ t.loading, loading.caller.call.reloads = false → latest = none
  granted : ∀ number, (number, Reply.done) ∈ t.replies → latest.isSome = true

theorem flight_opening (config : CompilerConfig) (metrics : Metrics) (world : W)
    : Flight config none [] (opening config metrics world) where
  stands := Service.standsAt_new config
  asked := rfl
  succeeded := rfl
  once := Nat.zero_le 1
  holder := by rintro loading ⟨⟩
  granted := fun _ there => absurd there List.not_mem_nil

/-- Before a schema is there, no load has succeeded. -/
theorem Flight.countP_isInitial (h : Flight config none done t)
    : done.countP Loading.isInitial = 0 := by
  rw [List.countP_eq_zero]
  intro loading completed first
  have failed := h.succeeded.symm
  rw [Option.isSome_none, List.any_eq_false] at failed
  rw [Loading.isInitial, Bool.and_eq_true] at first
  exact failed loading completed first.1

/-- At the beginning of a turn, the load that is completed joins the earlier ones, and the schema
that it brings is published. -/
theorem Flight.opens (h : Flight config latest done t) (opens : t.Opens event caller t')
    (c : Collaborators W)
    : Flight config ((t.brought? event).or latest) (done ++ (t.completes? event).toList) t' := by
  have supplies := (opens.account c).supplies
  rw [List.filterMap_nil, List.append_nil] at supplies
  have stands := opens.stands h.stands
  rcases opens.loading with ⟨nothing, same⟩ | ⟨loading, completed, held, free⟩
  · rw [brought?, nothing, Option.bind_none, Option.none_or] at stands ⊢
    rw [Option.toList_none, List.append_nil]
    refine ⟨stands, ?_, h.succeeded, h.once, ?_, ?_⟩
    · rw [supplies, same, h.asked]
    · rw [same]
      exact h.holder
    · rw [opens.replies]
      exact h.granted
  · have brings : t.brought? event = Scene.usable? loading.outcome := by
      rw [brought?, completed, Option.bind_some]
    rw [completed, Option.toList_some]
    refine ⟨stands, ?_, ?_, ?_, ?_, ?_⟩
    · rw [supplies, h.asked, held, free, Option.toList_some, Option.toList_none, List.append_nil]
    · rw [brings, Option.isSome_or, h.succeeded, List.any_append, Bool.or_comm]
      simp only [List.any_cons, List.any_nil, Bool.or_false, Loading.succeeds]
    · rw [List.countP_append, List.countP_singleton]
      by_cases first : loading.isInitial = true
      · have lazily : loading.caller.call.reloads = false := by
          rw [Loading.isInitial, Bool.and_eq_true, Bool.not_eq_true'] at first
          exact first.2
        obtain rfl := h.holder loading held lazily
        rw [h.countP_isInitial, if_pos first]
      · rw [if_neg first]
        exact h.once
    · rw [free]
      rintro _ ⟨⟩
    · intro number there
      rw [opens.replies] at there
      rw [Option.isSome_or, h.granted number there, Bool.or_true]

/-- A call that runs to its end asks for no schema, and is done only if there is one. -/
theorem Flight.ends {contacts : List Contact} {reply : Reply} (h : Flight config latest done t)
    (ends : Ends c t caller t' contacts reply) (stands : t'.scene.service.StandsAt config latest)
    (there : reply = .done → latest.isSome = true)
    : Flight config latest done t' := by
  refine ⟨stands, ?_, h.succeeded, h.once, ?_, ?_⟩
  · rw [ends.account.supplies, ends.supplies, List.append_nil, ends.loading, h.asked]
  · rw [ends.loading]
    exact h.holder
  · intro number replied
    rw [ends.replies] at replied
    rcases List.mem_append.mp replied with earlier | now
    · exact h.granted number earlier
    · obtain ⟨_, same⟩ := Prod.mk.inj (List.mem_singleton.mp now)
      exact there same.symm

/-- At the end of a turn, the provider is asked only by a call that finds the lock free, and that
wants the schema anew or finds none. -/
theorem Flight.closes (h : Flight config latest done t) (closes : Closes c.recorded t caller t')
    : Flight config latest done t' := by
  have stands := closes.stands h.stands
  cases closes with
  | proceed _ loaded =>
      obtain ⟨_, _, ends⟩ := proceed_ends c caller t
      exact h.ends ends stands fun _ => h.stands.loaded.symm.trans loaded
  | giveUp error =>
      obtain ⟨_, ends, undone⟩ := giveUp_ends c error caller t
      exact h.ends ends stands fun done => absurd done undone
  | start _ free needs =>
      have asked := (Scene.account_askSchema c t.scene).1
      refine ⟨stands, ?_, h.succeeded, h.once, ?_, h.granted⟩
      · have supplies := asked.supplies
        rw [h.asked, free, Option.toList_none, List.append_nil] at supplies
        rw [List.map_append]
        exact supplies
      · rintro _ ⟨⟩ lazily
        rw [content_eq, show caller.call.reloads = false from lazily, h.stands.loaded] at needs
        simpa using needs
  | wait => exact ⟨stands, h.asked, h.succeeded, h.once, h.holder, h.granted⟩

/-- An event moves the flight on by what it completes and brings. -/
theorem Flight.step (h : Flight config latest done t) (reachable : t.Reachable config)
    (c : Collaborators W) (event : Event)
    : Flight config ((t.brought? event).or latest) (done ++ (t.completes? event).toList)
        (t.step c.recorded event) := by
  rcases step_cases reachable.sound c.recorded event with
    ⟨nobody, same⟩ | ⟨caller, between, opens, closes⟩
  · rw [same, brought?, completes?_of_nobody nobody, Option.toList_none, List.append_nil]
    exact h
  · exact (h.opens opens c).closes closes

/-- Events move the flight on by all that they complete, by induction over them. -/
theorem Flight.after (h : Flight config latest done t) (reachable : t.Reachable config)
    (events : List (Collaborators W × Event))
    : ∃ latest, Flight config latest (done ++ t.completed events) (t.after events) := by
  induction events generalizing t latest done with
  | nil => exact ⟨latest, by rw [completed, List.append_nil]; exact h⟩
  | cons entry rest ih =>
      obtain ⟨c, event⟩ := entry
      have next := ih (h.step reachable c event) (reachable.event c.recorded event)
      rw [List.append_assoc] at next
      exact next

/-- Once a schema was loaded, the provider is asked only by calls that want the schema anew. -/
theorem Flight.step_supplies (h : Flight config latest done t) (reachable : t.Reachable config)
    (there : latest.isSome = true) (c : Collaborators W) (event : Event)
    : (t.step c.recorded event).scene.supplies = t.scene.supplies
      ∨ ∃ caller, t.actor? event = some caller ∧ caller.call = .reload := by
  rcases step_cases reachable.sound c.recorded event with
    ⟨_, same⟩ | ⟨caller, between, opens, closes⟩
  · exact .inl (by rw [same])
  · have supplies := (opens.account c).supplies
    rw [List.filterMap_nil, List.append_nil] at supplies
    have loaded : between.scene.service.loaded = true := by
      rw [(h.opens opens c).stands.loaded, Option.isSome_or, there, Bool.or_true]
    generalize t.step c.recorded event = t' at closes ⊢
    cases closes with
    | proceed =>
        obtain ⟨_, _, ends⟩ := proceed_ends c caller between
        refine .inl ?_
        rw [ends.account.supplies, ends.supplies, List.append_nil, supplies]
    | giveUp error =>
        obtain ⟨_, ends, _⟩ := giveUp_ends c error caller between
        refine .inl ?_
        rw [ends.account.supplies, ends.supplies, List.append_nil, supplies]
    | start _ _ needs =>
        rw [content_eq, loaded, Bool.and_true, Bool.not_eq_false'] at needs
        exact .inr ⟨caller, opens.actor, Call.eq_reload needs⟩
    | wait => exact .inl supplies

/-- At every point of every run of a new service, each call of the provider has been answered but
for at most one that is under way. Calls that are content with any schema load one at most, and
once a schema was loaded, only calls that want it anew ask the provider. A call that is done has a
schema with columns published, and each schema loaded is counted. -/
theorem after_singleFlight (config : CompilerConfig) (metrics : Metrics) (world : W)
    (events : List (Collaborators W × Event))
    (ran : t = (opening config metrics world).after events)
    (completed : done = (opening config metrics world).completed events)
    : t.scene.supplies = (done ++ t.loading.toList).map Loading.outcome
      ∧ t.scene.supplies.length ≤ done.length + 1
      ∧ done.countP Loading.isInitial ≤ 1
      ∧ (done.any Loading.succeeds = true → ∀ (c : Collaborators W) event,
          (t.step c.recorded event).scene.supplies = t.scene.supplies
          ∨ ∃ caller, t.actor? event = some caller ∧ caller.call = .reload)
      ∧ (∀ number, (number, .done) ∈ t.replies →
          ∃ schema, t.scene.service.published? = some schema ∧ schema.columns ≠ [])
      ∧ ((∀ entry ∈ events, entry.1.Discreet) →
          t.scene.metrics.counter "query_service.schema_loads"
            = metrics.counter "query_service.schema_loads" + done.countP Loading.succeeds) := by
  have begun : (opening config metrics world).Reachable config := .start metrics (world, [])
  obtain ⟨latest, flight⟩ := (flight_opening config metrics world).after begun events
  have reachable := begun.after events
  rw [List.nil_append, ← completed, ← ran] at flight
  rw [← ran] at reachable
  refine ⟨flight.asked, ?_, flight.once, ?_, ?_, ?_⟩
  · have one : t.loading.toList.length ≤ 1 := by cases t.loading <;> simp
    rw [flight.asked, List.length_map, List.length_append]
    omega
  · intro some c event
    exact flight.step_supplies reachable (flight.succeeded.trans some) c event
  · intro number there
    rw [← flight.stands.loaded_iff, flight.stands.loaded]
    exact flight.granted number there
  · intro discreet
    have balanced := after_balanced config metrics world events discreet
    rw [← completed, ← ran] at balanced
    exact balanced.books.loads

/-- Two calls that ask for the schema at the same time, before the provider gives it. -/
def twoCallers : List (Collaborators Unit × Event) :=
  let c := Collaborators.giving (.ok (some Compiler.rideSchema))
  [(c, .arrival ⟨0, .ensure⟩), (c, .arrival ⟨1, .ensure⟩), (c, .delivery), (c, .wakening)]

/-- Two calls at the same time share one load. -/
theorem after_singleFlight_twoCallers
    : let t := (opening {} {} ()).after twoCallers
      t.scene.supplies.length = 1
        ∧ (∃ schema, t.scene.service.published? = some schema ∧ schema.columns ≠ [])
        ∧ t.scene.metrics.counter "query_service.schema_loads" = 1 := by
  obtain ⟨asked, _, _, _, granted, loads⟩ := after_singleFlight {} {} () twoCallers rfl rfl
  have discreet : ∀ entry ∈ twoCallers, entry.1.Discreet := by
    intro entry there
    simp only [twoCallers, List.mem_cons, List.not_mem_nil, or_false] at there
    rcases there with rfl | rfl | rfl | rfl <;> exact Collaborators.giving_discreet _
  have replies : ((opening {} {} ()).after twoCallers).replies = [(0, .done), (1, .done)] := rfl
  refine ⟨?_, granted 0 (by simp [replies]), loads discreet⟩
  rw [asked]
  rfl

end Traffic

end RideQuestions
