import RideQuestions.Proofs.Store.Ledger
import RideQuestions.Server.Server

/-! A server does the same whether or not it is written down what it does to its store: the same
outcomes, and the same state, for startups, shutdowns, health checks and questions.
-/

namespace RideQuestions

open Calendar

variable {W : Type}

/-- A pool and its world with a log are like the pool and the world alone. -/
def Pool.Logged (v : Pool × (W × List Deed)) (w : Pool × W) : Prop :=
  v.1 = w.1 ∧ v.2.1 = w.2

/-- A pool runs a statement alike, whether it is open, is opened for it or cannot be opened. -/
theorem Pool.run_logged (db : Database W) (statement : Query.NamedStatement)
    {v : Pool × (W × List Deed)} {w : Pool × W} (h : Logged v w)
    : (v.1.run db.recorded statement v.2).1 = (w.1.run db statement w.2).1
      ∧ Logged (v.1.run db.recorded statement v.2).2 (w.1.run db statement w.2).2 := by
  obtain ⟨⟨config, isOpen⟩, world, log⟩ := v
  obtain ⟨_, _⟩ := w
  obtain ⟨rfl, rfl⟩ := h
  cases isOpen with
  | true => exact ⟨rfl, rfl, rfl⟩
  | false =>
      cases config with
      | none => exact ⟨rfl, rfl, rfl⟩
      | some config => exact ⟨rfl, rfl, rfl⟩

theorem Pool.isHealthy_logged (db : Database W) {v : Pool × (W × List Deed)} {w : Pool × W}
    (h : Logged v w)
    : (v.1.isHealthy db.recorded v.2).1 = (w.1.isHealthy db w.2).1
      ∧ Logged (v.1.isHealthy db.recorded v.2).2 (w.1.isHealthy db w.2).2 := by
  have ran := run_logged db healthCheck h
  unfold isHealthy ping
  generalize v.1.run db.recorded healthCheck v.2 = left at ran
  generalize w.1.run db healthCheck w.2 = right at ran
  obtain ⟨outcome, _, _⟩ := left
  obtain ⟨_, _, _⟩ := right
  obtain ⟨rfl, worlds⟩ := ran
  cases outcome with
  | ok rows => exact ⟨rfl, worlds⟩
  | error fault => cases fault <;> exact ⟨rfl, worlds⟩

namespace Server

/-- A server without the log. -/
def forget (s : Server (W × List Deed)) : Server W :=
  {
    settings := s.settings,
    service := s.service,
    metrics := s.metrics,
    pool := s.pool,
    holdsPool := s.holdsPool,
    world := s.world.1
  }

/-- An outcome with the server that it leaves, without the log. -/
def forgetting {α : Type} (ended : α × Server (W × List Deed)) : α × Server W :=
  (ended.1, ended.2.forget)

variable (db : Database W) (s : Server (W × List Deed))

theorem shutdown_forget
    : s.forget.shutdown db = (s.shutdown db.recorded).forget := by
  obtain ⟨settings, service, metrics, pool?, holdsPool, world, log⟩ := s
  rcases pool? with _ | ⟨config, isOpen⟩
  · rfl
  · cases holdsPool <;> cases isOpen <;> rfl

theorem build_forget
    : s.forget.build db = forgetting (s.build db.recorded) := by
  have settings : s.forget.settings = s.settings := rfl
  unfold build
  rw [settings]
  split
  · rfl
  · cases s.settings.databaseConfig? with
    | none => rfl
    | some config =>
        have made : Pool.of (some config) false = .ok { config := some config } := rfl
        have recorded : db.recorded.run Pool.healthCheck (db.recorded.openPool config s.world)
            = ((db.run Pool.healthCheck (db.openPool config s.world.1)).1,
                (db.run Pool.healthCheck (db.openPool config s.world.1)).2,
                s.world.2 ++ [.opened config]
                  ++ [.ran Pool.healthCheck
                    (db.run Pool.healthCheck (db.openPool config s.world.1)).1]) := rfl
        have world : s.forget.world = s.world.1 := rfl
        rw [made]
        dsimp only
        rw [Pool.connect_of_closed, Pool.connect_of_closed, recorded, world]
        generalize db.run Pool.healthCheck (db.openPool config s.world.1) = checked
        obtain ⟨outcome, _⟩ := checked
        cases outcome with
        | ok rows => rfl
        | error reason => cases reason <;> rfl

theorem collaborators_logged (schemaName : String)
    : (Store.collaborators db.recorded schemaName).Agree Pool.Logged
        (Store.collaborators db schemaName) :=
  Store.collaborators_agree schemaName fun statement _ _ h => Pool.run_logged db statement h

/-- A service that acts alike on its pool leaves servers that are alike. -/
theorem acting_forget {α : Type} (service : Service) (pool : Pool)
    {recorded : Scene (Pool × (W × List Deed)) → α × Scene (Pool × (W × List Deed))}
    {plain : Scene (Pool × W) → α × Scene (Pool × W)}
    (alike : ∀ t u, Scene.Alike Pool.Logged t u →
      Scene.EndAlike Pool.Logged (recorded t) (plain u))
    : s.forget.acting service pool plain = forgetting (s.acting service pool recorded) := by
  have ended := alike ⟨service, s.metrics, (pool, s.world)⟩ ⟨service, s.metrics, (pool, s.world.1)⟩
    ⟨rfl, rfl, rfl, rfl⟩
  have metrics : s.forget.metrics = s.metrics := rfl
  have world : s.forget.world = s.world.1 := rfl
  unfold acting
  dsimp only
  rw [metrics, world]
  generalize recorded _ = left at ended
  generalize plain _ = right at ended
  obtain ⟨_, _, _, _, _⟩ := left
  obtain ⟨_, _, _, _, _⟩ := right
  obtain ⟨rfl, rfl, rfl, rfl, rfl⟩ := ended
  rfl

theorem load_forget (service : Service)
    : s.forget.load db service = forgetting (s.load db.recorded service) := by
  have name : s.forget.schemaName = s.schemaName := rfl
  have pool : s.forget.servicePool = s.servicePool := rfl
  have acted := acting_forget s service s.servicePool fun _ _ alike =>
    alike.ensureLoaded (collaborators_logged db s.schemaName)
  unfold load
  dsimp only
  rw [name, pool, acted]
  generalize s.acting service s.servicePool _ = done
  obtain ⟨outcome, s₁⟩ := done
  cases outcome with
  | ok _ => rfl
  | error error => exact congrArg (Prod.mk _) (shutdown_forget db s₁)

/-- Starting is the same without the log. -/
theorem startup_forget
    : s.forget.startup db = forgetting (s.startup db.recorded) := by
  have service : s.forget.service = s.service := rfl
  rw [startup, startup, service]
  cases s.service with
  | some service => exact load_forget db s service
  | none =>
      dsimp only
      rw [build_forget]
      generalize s.build db.recorded = built
      obtain ⟨outcome, s₁⟩ := built
      cases outcome with
      | error fault => rfl
      | ok service => exact load_forget db s₁ service

/-- A question is answered the same way without the log. -/
theorem ask_forget (question : String) (now : Instant)
    : s.forget.ask db question now = forgetting (s.ask db.recorded question now) := by
  have service : s.forget.service = s.service := rfl
  have name : s.forget.schemaName = s.schemaName := rfl
  have pool : s.forget.servicePool = s.servicePool := rfl
  rw [ask, ask, service]
  cases s.service with
  | none => rfl
  | some service =>
      have acted := acting_forget s service s.servicePool fun _ _ alike =>
        alike.answer (collaborators_logged db s.schemaName) (some question) now
      dsimp only
      rw [name, pool, acted]
      rfl

/-- The health of a server is the same without the log. -/
theorem health_forget
    : s.forget.health db = forgetting (s.health db.recorded) := by
  obtain ⟨settings, service, metrics, pool?, holdsPool, world, log⟩ := s
  cases pool? with
  | none => rfl
  | some pool =>
      cases holdsPool with
      | false => rfl
      | true =>
          have checked : Pool.Logged (pool, world, log) (pool, world) := ⟨rfl, rfl⟩
          have checked := Pool.isHealthy_logged db checked
          unfold health forget
          dsimp only at checked ⊢
          generalize pool.isHealthy db.recorded (world, log) = left at checked
          generalize pool.isHealthy db world = right at checked
          obtain ⟨_, _, _, _⟩ := left
          obtain ⟨_, _, _⟩ := right
          obtain ⟨rfl, rfl, rfl⟩ := checked
          rfl

end Server

end RideQuestions
