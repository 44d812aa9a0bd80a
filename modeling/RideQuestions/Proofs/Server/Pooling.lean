import RideQuestions.Proofs.Config.Detection
import RideQuestions.Proofs.Server.Recording

/-! The pool of a server, from its first startup on. A startup that fails leaves no pool open unless
the store did not answer the health check, and an open pool is the only one until it is closed.
-/

namespace RideQuestions

open Calendar Config

variable {W : Type}

namespace Server

/-- A server that has done nothing yet. -/
def new (settings : Settings) (metrics : Metrics) (world : W) : Server W :=
  { settings, metrics, world }

/-- What a server has done to its store. -/
def log (s : Server (W × List Deed)) : List Deed :=
  s.world.2

/-- One use of a server that was started. -/
inductive Use where
  | question (text : String) (now : Instant)
  | health

/-- The server that a use leaves. -/
def use (db : Database W) (s : Server W) : Use → Server W
  | .question text now => (s.ask db text now).2
  | .health => (s.health db).2

def after (db : Database W) (s : Server W) (uses : List Use) : Server W :=
  uses.foldl (use db) s

-----------------------------------------------------------------------------------------
-- Open pools
-----------------------------------------------------------------------------------------

/-- A pool is the only one that was ever opened, and is open. -/
structure Sole (v : Pool × (W × List Deed)) : Prop where
  isOpen : v.1.isOpen = true
  opened : poolsOpened v.2.2 = 1
  unclosed : poolsClosed v.2.2 = 0

/-- A server has a hold on its pool, which is the only one that was ever opened. -/
structure Pooled (s : Server (W × List Deed)) : Prop where
  pool : ∃ pool, s.pool = some pool ∧ Sole (pool, s.world)
  held : s.holdsPool = true

/-- Running a statement leaves the only pool open. -/
theorem Sole.run {v : Pool × (W × List Deed)} (h : Sole v) (db : Database W)
    (statement : Query.NamedStatement)
    : Sole (v.1.run db.recorded statement v.2).2 := by
  rw [Pool.run_of_open h.isOpen]
  exact ⟨h.isOpen, (poolsOpened_ran _ _ _).trans h.opened, (poolsClosed_ran _ _ _).trans h.unclosed⟩

theorem collaborators_sole (db : Database W) (schemaName : String)
    : (Store.collaborators db.recorded schemaName).Agree (fun v w => v = w ∧ Sole v)
        (Store.collaborators db.recorded schemaName) := by
  refine Store.collaborators_agree schemaName ?_
  rintro statement v _ ⟨rfl, sole⟩
  exact ⟨rfl, rfl, sole.run db statement⟩

variable {s : Server (W × List Deed)}

/-- A use leaves the server with its pool, since questions and health checks run statements and no
more. -/
theorem Pooled.use (h : s.Pooled) (db : Database W) (u : Use)
    : (s.use db.recorded u).Pooled := by
  obtain ⟨⟨pool, there, sole⟩, held⟩ := h
  cases u with
  | question text now =>
      unfold Server.use ask
      cases s.service with
      | none => exact ⟨⟨pool, there, sole⟩, held⟩
      | some service =>
          have same : s.servicePool = pool := by rw [servicePool, there, Option.getD_some]
          dsimp only [acting]
          rw [same]
          have alike : Scene.Alike (fun v w => v = w ∧ Sole v)
              ⟨service, s.metrics, (pool, s.world)⟩ ⟨service, s.metrics, (pool, s.world)⟩ :=
            ⟨rfl, rfl, rfl, sole⟩
          have kept := alike.answer (collaborators_sole db s.schemaName) (some text) now
          exact ⟨⟨_, rfl, kept.scene.world.2⟩, held⟩
  | health =>
      unfold Server.use health
      rw [there, held]
      have kept := sole.run db Pool.healthCheck
      rw [← Pool.isHealthy_snd] at kept
      exact ⟨⟨_, rfl, kept⟩, rfl⟩

/-- Uses leave the server with its pool, by induction. -/
theorem Pooled.after (h : s.Pooled) (db : Database W) (uses : List Use)
    : (s.after db.recorded uses).Pooled := by
  induction uses generalizing s with
  | nil => exact h
  | cons u rest ih => exact ih (h.use db u)

/-- Stopping closes the pool, once. -/
theorem Pooled.shutdown (h : s.Pooled) (db : Database W)
    : poolsOpened (s.shutdown db.recorded).log = 1
      ∧ poolsClosed (s.shutdown db.recorded).log = 1
      ∧ (s.shutdown db.recorded).holdsPool = false := by
  obtain ⟨⟨pool, there, sole⟩, held⟩ := h
  unfold Server.shutdown
  rw [there, held]
  dsimp only
  rw [Pool.close_of_open sole.isOpen]
  have opened : poolsOpened (s.world.2 ++ [.closed]) = poolsOpened s.world.2 := by
    rw [poolsOpened, List.countP_append]
    rfl
  have closed : poolsClosed (s.world.2 ++ [.closed]) = poolsClosed s.world.2 + 1 := by
    rw [poolsClosed, List.countP_append]
    rfl
  exact ⟨opened.trans sole.opened, closed.trans (congrArg (· + 1) sole.unclosed), rfl⟩

-----------------------------------------------------------------------------------------
-- The first startup
-----------------------------------------------------------------------------------------

/-- The ways in which the first startup of a server goes: what is done to the store, what comes of
it, and whether the server keeps an open pool. -/
inductive Begun (database : Option DatabaseConfig)
    : List Deed → Except Fault Unit → Bool → Prop where
  /-- Settings are missing. -/
  | unbuilt (fault : Fault) : Begun database [] (.error fault) false
  /-- The store does not answer. -/
  | unanswered (config : DatabaseConfig) (given : database = some config) (reason fault : Fault)
      : Begun database [.opened config, .ran Pool.healthCheck (.error reason)] (.error fault) true
  /-- The store has no schema to give. -/
  | unloaded (config : DatabaseConfig) (given : database = some config) (rows : List Row)
      (outcome : Except Fault (List Row)) (error : ServiceError)
      : Begun database
          [.opened config, .ran Pool.healthCheck (.ok rows),
           .ran (Store.catalogQuery config.schemaName) outcome, .closed]
          (.error (.service error)) false
  | started (config : DatabaseConfig) (given : database = some config)
      (rows : List Row) (outcome : Except Fault (List Row))
      : Begun database
          [.opened config, .ran Pool.healthCheck (.ok rows),
           .ran (Store.catalogQuery config.schemaName) outcome]
          (.ok ()) true

/-- A server has a hold on an open pool, made for its database, in some world. -/
structure Holds (config : DatabaseConfig) (world : W) (s : Server W) : Prop where
  given : s.settings.databaseConfig? = some config
  pool : s.pool = some { config := some config, isOpen := true }
  held : s.holdsPool = true
  world : s.world = world

variable {db : Database W} {config : DatabaseConfig}

/-- Without all settings there is nothing to build, and nothing changes. -/
theorem build_incomplete (db : Database W) {s : Server W}
    (incomplete : s.settings.missing ≠ [] ∨ s.settings.databaseConfig? = none)
    : ∃ fault, s.build db = (.error fault, s) := by
  unfold build
  split
  · exact ⟨_, rfl⟩
  · next complete =>
      rw [incomplete.resolve_left (by simpa using complete)]
      exact ⟨_, rfl⟩

/-- Building opens the pool with a health check, and keeps it whatever comes of that. -/
theorem build_holds (db : Database W) {s : Server W} (complete : s.settings.missing = [])
    (given : s.settings.databaseConfig? = some config)
    : Holds config (db.run Pool.healthCheck (db.openPool config s.world)).2 (s.build db).2
      ∧ ((∃ reason fault,
          (db.run Pool.healthCheck (db.openPool config s.world)).1 = .error reason
            ∧ (s.build db).1 = .error fault)
        ∨ ∃ rows, (db.run Pool.healthCheck (db.openPool config s.world)).1 = .ok rows
            ∧ (s.build db).1 = .ok (.new s.settings.compilerConfig)) := by
  have made : Pool.of (some config) false = .ok { config := some config } := rfl
  unfold build
  rw [complete, given, made]
  dsimp only
  rw [Pool.connect_of_closed]
  generalize db.run Pool.healthCheck (db.openPool config s.world) = checked
  obtain ⟨outcome, w⟩ := checked
  cases outcome with
  | ok rows => exact ⟨⟨given, rfl, rfl, rfl⟩, .inr ⟨rows, rfl, rfl⟩⟩
  | error reason =>
      cases reason <;> exact ⟨⟨given, rfl, rfl, rfl⟩, .inl ⟨_, _, rfl, rfl⟩⟩

/-- Loading asks for the schema on the open pool. A server that gets none closes the pool. -/
theorem Holds.load {w : W} {s : Server W} (h : Holds config w s) (db : Database W)
    {service : Service} (unloaded : service.loaded = false)
    : ((s.load db service).1 = .ok ()
        ∧ Holds config (db.run (Store.catalogQuery config.schemaName) w).2 (s.load db service).2)
      ∨ ((∃ error, (s.load db service).1 = .error (.service error))
        ∧ (s.load db service).2.holdsPool = false
        ∧ (s.load db service).2.world
          = db.closePool (db.run (Store.catalogQuery config.schemaName) w).2) := by
  obtain ⟨given, there, held, rfl⟩ := h
  have same : s.servicePool = { config := some config, isOpen := true } := by
    rw [servicePool, there, Option.getD_some]
  have name : s.schemaName = config.schemaName := by
    rw [schemaName, given, Option.map_some, Option.getD_some]
  have asked := Store.reload_world db config.schemaName { config := some config, isOpen := true }
    rfl service s.metrics s.world
  unfold Server.load
  dsimp only [acting]
  rw [same, name, Scene.ensureLoaded, if_neg (by simp [unloaded])]
  generalize Scene.reload _ _ = loaded at asked
  obtain ⟨outcome, service', metrics, world⟩ := loaded
  obtain rfl : world = _ := asked
  cases outcome with
  | ok _ => exact .inl ⟨rfl, given, rfl, held, rfl⟩
  | error error =>
      refine .inr ⟨⟨error, rfl⟩, ?_⟩
      unfold shutdown
      dsimp only
      rw [held]
      exact ⟨rfl, rfl⟩

/-- A server with an open pool that was opened once and never closed. -/
theorem Holds.pooled {v : W × List Deed} {s : Server (W × List Deed)} (h : Holds config v s)
    (opened : poolsOpened v.2 = 1) (unclosed : poolsClosed v.2 = 0)
    : s.Pooled := by
  obtain ⟨_, there, held, rfl⟩ := h
  exact ⟨⟨_, there, rfl, opened, unclosed⟩, held⟩

/-- The first startup of a server goes in one of its ways, by how building and loading go. -/
theorem startup_begun (db : Database W) {s : Server (W × List Deed)} (unbuilt : s.service = none)
    (unheld : s.holdsPool = false) (blank : s.log = [])
    : ∃ keeps,
      Begun s.settings.databaseConfig? (s.startup db.recorded).2.log (s.startup db.recorded).1 keeps
        ∧ (s.startup db.recorded).2.holdsPool = keeps
        ∧ (keeps = true → (s.startup db.recorded).2.Pooled) := by
  rw [startup, unbuilt]
  dsimp only
  by_cases incomplete : s.settings.missing ≠ [] ∨ s.settings.databaseConfig? = none
  · obtain ⟨fault, same⟩ := build_incomplete db.recorded incomplete
    rw [same]
    refine ⟨false, ?_, unheld, by simp⟩
    dsimp only
    rw [blank]
    exact .unbuilt fault
  · obtain ⟨complete, there⟩ := not_or.mp incomplete
    obtain ⟨config, given⟩ := Option.ne_none_iff_exists'.mp there
    obtain ⟨holds, ends⟩ := build_holds db.recorded (by simpa using complete) given
    obtain ⟨w, log⟩ : ∃ w, s.world = (w, []) := ⟨s.world.1, Prod.ext rfl blank⟩
    rw [log] at holds ends
    generalize s.build db.recorded = built at holds ends
    obtain ⟨result, s₁⟩ := built
    rcases ends with ⟨reason, fault, failed, result⟩ | ⟨rows, answered, result⟩
    · obtain rfl := result
      refine ⟨true, ?_, holds.held, fun _ => holds.pooled rfl rfl⟩
      dsimp only
      rw [Server.log, holds.world]
      change Begun _ [.opened config, .ran Pool.healthCheck _] _ _
      rw [show (db.run Pool.healthCheck (db.openPool config w)).1 = .error reason from failed]
      exact .unanswered config given reason fault
    · obtain rfl := result
      have unloaded : (Service.new s.settings.compilerConfig).loaded = false := rfl
      dsimp only
      rcases holds.load db.recorded unloaded with ⟨ended, holds⟩ | ⟨⟨error, ended⟩, unheld, world⟩
      · refine ⟨true, ?_, holds.held, fun _ => holds.pooled rfl rfl⟩
        rw [ended, Server.log, holds.world]
        change Begun _ [.opened config, .ran Pool.healthCheck _, .ran _ _] _ _
        rw [show (db.run Pool.healthCheck (db.openPool config w)).1 = .ok rows from answered]
        exact .started config given rows _
      · refine ⟨false, ?_, unheld, by simp⟩
        rw [ended, Server.log, world]
        change Begun _ [.opened config, .ran Pool.healthCheck _, .ran _ _, .closed] _ _
        rw [show (db.run Pool.healthCheck (db.openPool config w)).1 = .ok rows from answered]
        exact .unloaded config given rows _ error

-----------------------------------------------------------------------------------------
-- Failed startups
-----------------------------------------------------------------------------------------

/-- The store did not answer a health check. -/
def Unanswered (deeds : List Deed) : Prop :=
  ∃ reason, Deed.ran Pool.healthCheck (.error reason) ∈ deeds

/-- Every pool that was opened is closed, and the server has a hold on none. -/
structure Tidy (s : Server (W × List Deed)) : Prop where
  closed : poolsOpened s.log = poolsClosed s.log
  unheld : s.holdsPool = false

theorem catalogQuery_ne_healthCheck (schemaName : String)
    : Store.catalogQuery schemaName ≠ Pool.healthCheck := by
  intro same
  have binds := congrArg Query.NamedStatement.binds same
  exact absurd binds (List.cons_ne_nil _ _)

/-- What the ways of a startup mean for its pool: it stays open when the startup succeeds and when
the store does not answer. -/
theorem Begun.keeps_iff {database : Option DatabaseConfig} {deeds : List Deed}
    {result : Except Fault Unit} {keeps : Bool} (h : Begun database deeds result keeps)
    : (keeps = true ↔ result = .ok () ∨ Unanswered deeds)
      ∧ (Unanswered deeds → ∃ fault, result = .error fault)
      ∧ (keeps = false → poolsOpened deeds = poolsClosed deeds) := by
  have other (schemaName : String) := (catalogQuery_ne_healthCheck schemaName).symm
  cases h with
  | unbuilt fault => exact ⟨by simp [Unanswered], fun _ => ⟨fault, rfl⟩, fun _ => rfl⟩
  | unanswered config given reason fault =>
      exact ⟨by simp [Unanswered], fun _ => ⟨fault, rfl⟩, by simp⟩
  | unloaded config given rows outcome error =>
      exact ⟨by simp [Unanswered, other], fun _ => ⟨_, rfl⟩, fun _ => rfl⟩
  | started config given rows outcome =>
      exact ⟨by simp, by simp [Unanswered, other], by simp⟩

/-- The first startup of a server and its pool, with what is done to the store written down, which
changes neither the result nor the server. When it fails, no pool is left open exactly when the
store did not fail the health check; a startup whose health check fails returns its failure, but
keeps the pool. From there, and from a startup that succeeds, any questions and health checks later
a shutdown closes the one pool that was ever opened, once. -/
theorem startup_pool (db : Database W) (settings : Settings) (metrics : Metrics) (w : W)
    : ∃ result s, (new settings metrics (w, [])).startup db.recorded = (result, s)
      ∧ (new settings metrics w).startup db = (result, s.forget)
      ∧ (∀ fault, result = .error fault → (s.Tidy ↔ ¬Unanswered s.log))
      ∧ (Unanswered s.log → ∃ fault, result = .error fault)
      ∧ (result = .ok () ∨ Unanswered s.log →
          s.Pooled ∧ ∀ uses,
            poolsClosed ((s.after db.recorded uses).shutdown db.recorded).log = 1
              ∧ ((s.after db.recorded uses).shutdown db.recorded).Tidy) := by
  have forgotten := startup_forget db (new settings metrics (w, []))
  have plain : (new settings metrics (w, [])).forget = new settings metrics w := rfl
  rw [plain] at forgotten
  generalize fresh : new settings metrics (w, ([] : List Deed)) = s₀ at forgotten
  have unbuilt : s₀.service = none := by rw [← fresh, new]
  have unheld : s₀.holdsPool = false := by rw [← fresh, new]
  have blank : s₀.log = [] := by rw [← fresh]; rfl
  obtain ⟨keeps, begun, held, pooled⟩ := startup_begun db unbuilt unheld blank
  generalize s₀.startup db.recorded = ended at begun held pooled forgotten
  obtain ⟨result, s⟩ := ended
  obtain ⟨kept, failed, closed⟩ := begun.keeps_iff
  refine ⟨result, s, rfl, forgotten, fun fault returned =>
    ⟨fun tidy unanswered => ?_, fun answered => ?_⟩, failed, fun serves => ?_⟩
  · exact absurd (held.symm.trans tidy.unheld) (by simp [kept.mpr (.inr unanswered)])
  · have unkept : keeps = false := by
      rw [← Bool.not_eq_true, kept, returned]
      simpa using answered
    exact ⟨closed unkept, held.trans unkept⟩
  · have pooled := pooled (kept.mpr serves)
    refine ⟨pooled, fun uses => ?_⟩
    obtain ⟨opened, closed, unheld⟩ := (pooled.after db uses).shutdown db
    exact ⟨closed, opened.trans closed.symm, unheld⟩

/-- The variables of a server with all settings for its store. -/
def reportingVariables : Variables :=
  [("ENVIRONMENT", "testing"), ("PGDATABASE", "rides"), ("PGHOST", "db.internal"),
   ("PGPASSWORD", "s3cret"), ("PGUSER", "reporting")]

/-- A startup whose store cannot be reached fails with its pool open and held. -/
theorem startup_pool_unreachable
    : ∃ settings s, (Settings.load { vars := reportingVariables } {}).1 = .ok settings
      ∧ (new settings {} ((), [])).startup (Database.failing "m").recorded
        = (.error (.service (.saying .schemaUnavailable "Cannot connect to database: m")), s)
      ∧ poolsOpened s.log = 1 ∧ poolsClosed s.log = 0 ∧ s.holdsPool = true := by
  rw [load_of_entries rfl]
  refine ⟨_, _, rfl, rfl, ?_⟩
  exact ⟨rfl, rfl, rfl⟩

end Server

end RideQuestions
