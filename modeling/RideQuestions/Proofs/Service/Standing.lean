import RideQuestions.Proofs.Query.Session
import RideQuestions.Service.Service

/-! Where a service stands. The schema counts as loaded exactly when one with columns is published,
the compiler stands at it, and every part of a call leaves it so.
-/

namespace RideQuestions

open Calendar Query

variable {W : Type}

theorem Snapshot.isEmpty_eq {α : Type} (s : Snapshot α)
    : s.isEmpty = s.columns.isEmpty := by
  rw [Bool.eq_iff_iff, Snapshot.isEmpty, List.all_eq_true, Snapshot.columns, List.isEmpty_iff,
    List.flatMap_eq_nil_iff]
  simp only [List.isEmpty_iff]

/-- The schema that is published, if any. -/
def Service.published? (s : Service) : Option Schema :=
  s.compiler.mapper.published.map Published.schema

/-- A service stands at a published schema, or at none, with a compiler that does so too. A schema
that is published has columns, and counts as loaded. -/
structure Service.StandsAt (s : Service) (config : CompilerConfig) (latest : Option Schema)
    : Prop where
  compiler : s.compiler.StandsAt config latest
  loaded : s.loaded = latest.isSome
  usable : ∀ schema ∈ latest, schema.columns ≠ []

-----------------------------------------------------------------------------------------
-- What the parts of a call do to the service
-----------------------------------------------------------------------------------------

namespace Service

variable {s : Service} {config : CompilerConfig} {latest : Option Schema} {schema : Schema}

theorem standsAt_new (config : CompilerConfig)
    : (new config).StandsAt config none :=
  ⟨Compiler.standsAt_new config, rfl, by rintro schema ⟨⟩⟩

theorem StandsAt.published (h : s.StandsAt config latest)
    : s.published? = latest :=
  h.compiler.published

theorem StandsAt.compile (h : s.StandsAt config latest) (question : String) (now : Instant)
    : { s with compiler := (s.compiler.compile question now).2 }.StandsAt config latest :=
  ⟨h.compiler.compile question now, h.loaded, h.usable⟩

theorem StandsAt.publish (h : s.StandsAt config latest) (usable : schema.columns ≠ [])
    : { compiler := s.compiler.publish schema, loaded := true : Service }.StandsAt config
        (some schema) := by
  refine ⟨h.compiler.publish schema, rfl, ?_⟩
  rintro _ ⟨⟩
  exact usable

/-- A service counts as loaded exactly when a schema with columns is published. -/
theorem StandsAt.loaded_iff (h : s.StandsAt config latest)
    : s.loaded = true ↔ ∃ schema, s.published? = some schema ∧ schema.columns ≠ [] := by
  rw [h.loaded, h.published, Option.isSome_iff_exists]
  constructor
  · rintro ⟨schema, rfl⟩
    exact ⟨schema, rfl, h.usable schema rfl⟩
  · rintro ⟨schema, published, _⟩
    exact ⟨schema, published⟩

end Service

namespace Scene

variable {s : Scene W} {c : Collaborators W} {config : CompilerConfig} {latest : Option Schema}
variable {outcome : Except Fault (Option Schema)}

/-- The schema that a provider has given, if it is one with columns. -/
def usable? : Except Fault (Option Schema) → Option Schema
  | .ok (some schema) => if schema.columns.isEmpty then none else some schema
  | _ => none

theorem usable?_eq_some_iff {schema : Schema}
    : usable? outcome = some schema ↔ outcome = .ok (some schema) ∧ schema.columns ≠ [] := by
  unfold usable?
  split
  · next given =>
      rw [Option.ite_none_left_eq_some, List.isEmpty_iff, Option.some.injEq]
      constructor
      · rintro ⟨columns, rfl⟩
        exact ⟨rfl, columns⟩
      · rintro ⟨⟨⟩, columns⟩
        exact ⟨columns, rfl⟩
  · next other =>
      simp only [reduceCtorEq, false_iff]
      rintro ⟨rfl, _⟩
      exact other schema rfl

theorem received_of_usable {schema : Schema} (taken : usable? outcome = some schema)
    : received outcome = .ok schema := by
  obtain ⟨rfl, columns⟩ := usable?_eq_some_iff.mp taken
  rw [received, Snapshot.isEmpty_eq, if_neg (by simpa using columns)]

/-- Without a usable schema, the schema is unavailable. -/
theorem received_of_unusable (nothing : usable? outcome = none)
    : ∃ error, received outcome = .error error ∧ error.kind = .schemaUnavailable := by
  unfold received
  split
  · next error =>
      split
      · next kind => exact ⟨error, rfl, kind⟩
      · exact ⟨_, rfl, rfl⟩
  · exact ⟨_, rfl, rfl⟩
  · exact ⟨_, rfl, rfl⟩
  · next given =>
      have empty : given.isEmpty = true := by simpa [usable?, Snapshot.isEmpty_eq] using nothing
      rw [if_pos empty]
      exact ⟨_, rfl, rfl⟩

/-- A usable schema is published and counted, and the service counts as loaded. -/
theorem accept_of_usable {schema : Schema} (taken : usable? outcome = some schema)
    : s.accept outcome
      = (.ok (),
          { s with service := ⟨s.service.compiler.publish schema, true⟩ }.count
            "query_service.schema_loads") := by
  rw [accept, received_of_usable taken]

/-- Without a usable schema, nothing changes. -/
theorem accept_of_unusable (nothing : usable? outcome = none)
    : ∃ error, received outcome = .error error ∧ error.kind = .schemaUnavailable
      ∧ s.accept outcome = (.error error, s) := by
  obtain ⟨error, refused, kind⟩ := received_of_unusable nothing
  refine ⟨error, refused, kind, ?_⟩
  rw [accept, refused]

/-- What a provider has given moves the service to it if it is usable. -/
theorem StandsAt.accept (h : s.service.StandsAt config latest)
    : (s.accept outcome).2.service.StandsAt config ((usable? outcome).or latest) := by
  cases given : usable? outcome with
  | none =>
      obtain ⟨_, _, _, same⟩ := accept_of_unusable (s := s) given
      rw [same]
      exact h
  | some schema =>
      rw [accept_of_usable given]
      exact h.publish (usable?_eq_some_iff.mp given).2

/-- Compiling changes no more than what is remembered, and books of its own. -/
theorem compile_spec (question : String) (now : Instant) (s : Scene W)
    : (s.compile question now).1 = (s.service.compiler.compile question now).1
      ∧ (s.compile question now).2.service
        = { s.service with compiler := (s.service.compiler.compile question now).2 }
      ∧ (s.compile question now).2.world = s.world
      ∧ (s.compile question now).2.metrics
        = (s.metrics.track "compiler.compile"
            fun m => ((s.service.compiler.compile question now).1, m)).2 := by
  rw [compile]
  generalize s.service.compiler.compile question now = made
  obtain ⟨result, compiler⟩ := made
  exact ⟨rfl, rfl, rfl, rfl⟩

/-- What preparing a query gives, by what compiling the question gave. -/
theorem prepare_fst (question : String) (now : Instant)
    : (s.prepare c question now).1
      = match (s.service.compiler.compile question now).1 with
        | .error error => .error (compileFault error)
        | .ok query => (approve c query).map fun _ => query := by
  rw [← (compile_spec question now s).1, prepare]
  generalize s.compile question now = made
  obtain ⟨result, _⟩ := made
  cases result <;> rfl

theorem prepare_snd (question : String) (now : Instant)
    : (s.prepare c question now).2 = (s.compile question now).2 := by
  rw [prepare]
  split <;> next h => rw [h]

/-- Answering a question compiles it and changes nothing else of the service. -/
theorem respond_service (question : String) (now : Instant)
    : (s.respond c question now).2.service
      = { s.service with compiler := (s.service.compiler.compile question now).2 } := by
  have compiled := congrArg Scene.service (s.prepare_snd (c := c) question now)
  rw [(compile_spec question now s).2.1] at compiled
  rw [← compiled, respond]
  split
  · next h => rw [h]; rfl
  · next query prepared h =>
      rw [h]
      split
      · next executed => exact congrArg (fun r => r.2.service) executed.symm
      · next executed => exact congrArg (fun r => r.2.service) executed.symm

theorem StandsAt.respond (h : s.service.StandsAt config latest) (question : String)
    (now : Instant)
    : (s.respond c question now).2.service.StandsAt config latest := by
  rw [respond_service]
  exact h.compile question now

end Scene

end RideQuestions
