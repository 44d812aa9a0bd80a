import RideQuestions.Proofs.Query.Vocabulary
import RideQuestions.Proofs.Service.Run

/-! Loads that fail. Whether the provider fails, has nothing to give, or gives a schema without
columns: the schema is unavailable, and the service stays as it was.
-/

namespace RideQuestions

open Calendar Query

variable {W : Type}

namespace Scene

variable {s s' : Scene W} {c : Collaborators W} {outcome : Except Fault (Option Schema)}

/-- A load left the service as it was, with the published schema, everything remembered for it and
the flag, and counted no schema. Whatever is compiled later comes out as it would have. -/
structure Untouched (s s' : Scene W) : Prop where
  service : s'.service = s.service
  loads : s'.metrics.counter "query_service.schema_loads"
    = s.metrics.counter "query_service.schema_loads"
  later : ∀ calls, s'.service.compiler.answers calls = s.service.compiler.answers calls

/-- A call ended because the schema is unavailable, and left the service as it was. -/
def Refused (s : Scene W) (ended : Except ServiceError Unit × Scene W) : Prop :=
  (∃ error, ended.1 = .error error ∧ error.kind = .schemaUnavailable) ∧ s.Untouched ended.2

theorem untouched_of_service (service : s'.service = s.service)
    (loads : s'.metrics.counter "query_service.schema_loads"
      = s.metrics.counter "query_service.schema_loads")
    : s.Untouched s' :=
  ⟨service, loads, fun _ => by rw [service]⟩

/-- What fails is any outcome that has no schema with columns. -/
theorem usable?_eq_none (failing : ∀ schema, outcome = .ok (some schema) → schema.columns = [])
    : usable? outcome = none := by
  rw [Option.eq_none_iff_forall_ne_some]
  intro schema usable
  obtain ⟨given, columns⟩ := usable?_eq_some_iff.mp usable
  exact columns (failing schema given)

theorem askSchema_untouched (discreet : c.Discreet) (s : Scene W)
    : s.Untouched (s.askSchema c).2 :=
  untouched_of_service rfl (Metrics.adds_of_select (discreet.load s.metrics s.world)).loads

/-- Loading anew is refused when the provider fails. -/
theorem reload_refused (discreet : c.Discreet)
    (failing : ∀ schema, (c.load s.metrics s.world).1 = .ok (some schema) → schema.columns = [])
    : s.Refused (s.reload c) := by
  have untouched := askSchema_untouched discreet s
  obtain ⟨error, _, kind, same⟩ :=
    accept_of_unusable (s := (s.askSchema c).2) (usable?_eq_none failing)
  have ended : s.reload c = (.error error, (s.askSchema c).2) := same
  rw [ended]
  exact ⟨⟨error, rfl, kind⟩, untouched⟩

end Scene

namespace Traffic

variable {t : Traffic W} {config : CompilerConfig}

/-- A failing outcome that reaches the call that waits for it changes nothing but that the call
ends: as refused, or for a question with an answer that says so. -/
theorem deliver_refused {loading : Loading} (held : t.loading = some loading)
    (failing : ∀ schema, loading.outcome = .ok (some schema) → schema.columns = [])
    (c : Collaborators W)
    : ∃ error, error.kind = .schemaUnavailable
      ∧ t.deliver c = { t with loading := none }.giveUp error loading.caller := by
  obtain ⟨error, _, kind, same⟩ :=
    Scene.accept_of_unusable (s := t.scene) (Scene.usable?_eq_none failing)
  refine ⟨error, kind, ?_⟩
  rw [deliver, held]
  dsimp only
  rw [same]

theorem giveUp_untouched (error : ServiceError) (caller : Caller) (t : Traffic W)
    : t.scene.Untouched (t.giveUp error caller).scene := by
  refine Scene.untouched_of_service (giveUp_service error caller t) ?_
  cases asks : caller.call.asks with
  | false => rw [giveUp_of_silent asks]; rfl
  | true =>
      have failed :=
        t.scene.metrics.adds_outcome (Metrics.isOutcome_failureCounter (.service error))
      rw [giveUp_of_asks asks]
      exact failed.loads

/-- In every state that calls lead to, the schema counts as loaded exactly when one with columns is
published. A load that fails is refused there and leaves the service as it was: one that runs
without a break, and one whose outcome reaches a call that has waited for it. A service whose
schema is loaded does not load it again unless that is wanted. -/
theorem failedLoad_untouched (reachable : t.Reachable config) {c : Collaborators W}
    (discreet : c.Discreet)
    : (t.scene.service.loaded = true
        ↔ ∃ schema, t.scene.service.published? = some schema ∧ schema.columns ≠ [])
      ∧ ((∀ schema, (c.load t.scene.metrics t.scene.world).1 = .ok (some schema) →
            schema.columns = []) →
          t.scene.Refused (t.scene.reload c)
          ∧ (t.scene.service.loaded = false → t.scene.Refused (t.scene.ensureLoaded c)))
      ∧ (t.scene.service.loaded = true → t.scene.ensureLoaded c = (.ok (), t.scene))
      ∧ (∀ caller, t.scene.Untouched (t.startLoading c caller).scene)
      ∧ ∀ loading, t.loading = some loading →
          (∀ schema, loading.outcome = .ok (some schema) → schema.columns = []) →
          t.scene.Untouched (t.deliver c).scene
          ∧ (loading.caller.call.asks = false →
              ∃ error, error.kind = .schemaUnavailable
                ∧ (t.deliver c).replies
                  = t.replies ++ [(loading.caller.number, .refused error)]) := by
  obtain ⟨latest, stands⟩ := reachable.stands
  refine ⟨stands.loaded_iff, ?_, ?_, fun _ => Scene.askSchema_untouched discreet t.scene, ?_⟩
  · intro failing
    have refused := Scene.reload_refused discreet failing
    refine ⟨refused, ?_⟩
    intro unloaded
    rw [Scene.ensureLoaded, if_neg (by simp [unloaded])]
    exact refused
  · intro loaded
    rw [Scene.ensureLoaded, if_pos loaded]
  · intro loading held failing
    obtain ⟨error, kind, ended⟩ := deliver_refused held failing c
    rw [ended]
    refine ⟨giveUp_untouched error loading.caller { t with loading := none }, ?_⟩
    intro silent
    refine ⟨error, kind, ?_⟩
    rw [giveUp_of_silent silent]
    rfl

/-- A service with the ride tables whose schema is wanted anew, from a provider that has nothing to
give any more. -/
def reloading (config : CompilerConfig) : Traffic Unit :=
  let giving := Collaborators.giving (.ok (some Compiler.rideSchema))
  let opened : Traffic Unit := { scene := { service := .new config, world := () } }
  let served := (opened.step giving (.arrival ⟨0, .ensure⟩)).step giving .delivery
  served.step (Collaborators.giving (.ok none)) (.arrival ⟨1, .reload⟩)

/-- The ride tables stay published when the provider has nothing to give any more. -/
theorem failedLoad_untouched_reloading
    : (reloading {}).scene.service.loaded = true
      ∧ (reloading {}).scene.Refused
        ((reloading {}).scene.reload (Collaborators.giving (.ok none)))
      ∧ (reloading {}).scene.Untouched
        ((reloading {}).deliver (Collaborators.giving (.ok none))).scene := by
  have reachable : (reloading {}).Reachable {} := by
    unfold reloading
    exact .event _ _ (.event _ _ (.event _ _ (.start {} ())))
  obtain ⟨_, alone, _, _, among⟩ :=
    failedLoad_untouched reachable (Collaborators.giving_discreet (.ok none))
  refine ⟨rfl, (alone (by rintro _ ⟨⟩)).1, ?_⟩
  exact (among ⟨⟨1, .reload⟩, .ok none⟩ rfl (by rintro _ ⟨⟩)).1

end Traffic

end RideQuestions
