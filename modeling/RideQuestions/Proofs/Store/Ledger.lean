import RideQuestions.Proofs.Service.Likeness
import RideQuestions.Store.Backed

/-! What is done to a store, written down. Writing it down changes nothing else, and a service on an
open pool runs statements and does nothing more: it opens no pool and closes none.
-/

namespace RideQuestions

open Config Query

variable {V W : Type}

-----------------------------------------------------------------------------------------
-- Deeds
-----------------------------------------------------------------------------------------

/-- One thing that is done to a store. -/
inductive Deed where
  | opened (config : DatabaseConfig)
  | ran (statement : NamedStatement) (outcome : Except Fault (List Row))
  | closed

def Deed.opensPool : Deed → Bool
  | opened _ => true
  | _ => false

def Deed.closesPool : Deed → Bool
  | closed => true
  | _ => false

/-- How many pools some deeds open. -/
def poolsOpened (deeds : List Deed) : Nat :=
  deeds.countP Deed.opensPool

/-- How many pools some deeds close. -/
def poolsClosed (deeds : List Deed) : Nat :=
  deeds.countP Deed.closesPool

theorem poolsOpened_ran (deeds : List Deed) (statement : NamedStatement)
    (outcome : Except Fault (List Row))
    : poolsOpened (deeds ++ [.ran statement outcome]) = poolsOpened deeds := by
  rw [poolsOpened, List.countP_append]
  rfl

theorem poolsClosed_ran (deeds : List Deed) (statement : NamedStatement)
    (outcome : Except Fault (List Row))
    : poolsClosed (deeds ++ [.ran statement outcome]) = poolsClosed deeds := by
  rw [poolsClosed, List.countP_append]
  rfl

/-- A store that does the same and writes down what is done to it. -/
def Database.recorded (db : Database W) : Database (W × List Deed) where
  openPool config := fun (world, log) => (db.openPool config world, log ++ [.opened config])
  run statement := fun (world, log) =>
    let (outcome, world) := db.run statement world
    (outcome, world, log ++ [.ran statement outcome])
  closePool := fun (world, log) => (db.closePool world, log ++ [.closed])

/-- A store that fails with every statement. -/
def Database.failing (message : String) : Database Unit where
  openPool _ := fun w => w
  run _ := fun w => (.error (.store message none), w)
  closePool := fun w => w

-----------------------------------------------------------------------------------------
-- Services on a pool
-----------------------------------------------------------------------------------------

namespace Pool

theorem run_of_open {pool : Pool} (h : pool.isOpen = true) (db : Database W)
    (statement : NamedStatement) (w : W)
    : pool.run db statement w = ((db.run statement w).1, pool, (db.run statement w).2) := by
  rw [run, ensureOpen, if_pos h]

/-- A pool that is not open is opened with its first statement. -/
theorem run_of_closed {config : DatabaseConfig} (db : Database W) (statement : NamedStatement)
    (w : W)
    : run db statement { config := some config } w
      = ((db.run statement (db.openPool config w)).1, { config := some config, isOpen := true },
          (db.run statement (db.openPool config w)).2) :=
  rfl

/-- Connecting opens a pool and checks the store, whatever comes of that. -/
theorem connect_of_closed {config : DatabaseConfig} (db : Database W) (metrics : Metrics) (w : W)
    : connect db metrics { config := some config } w
      = match db.run healthCheck (db.openPool config w) with
        | (.ok _, w) =>
            (.ok (), metrics.count "database.connections.established" 1,
              { config := some config, isOpen := true }, w)
        | (.error reason, w) =>
            (.error reason, metrics, { config := some config, isOpen := true }, w) := by
  rw [connect, ping, run_of_closed]
  generalize db.run healthCheck (db.openPool config w) = checked
  obtain ⟨outcome, w⟩ := checked
  cases outcome <;> rfl

theorem close_of_open {pool : Pool} (h : pool.isOpen = true) (db : Database W) (w : W)
    : pool.close db w = ({ pool with isOpen := false }, db.closePool w) := by
  rw [close, if_pos h]

theorem ping_snd (db : Database W) (pool : Pool) (w : W)
    : (pool.ping db w).2 = (pool.run db healthCheck w).2 :=
  rfl

/-- Whatever a health check says, it has run its statement. -/
theorem isHealthy_snd (db : Database W) (pool : Pool) (w : W)
    : (pool.isHealthy db w).2 = (pool.run db healthCheck w).2 := by
  rw [← ping_snd, isHealthy]
  generalize pool.ping db w = done
  obtain ⟨outcome, _⟩ := done
  cases outcome with
  | ok _ => rfl
  | error fault => cases fault <;> rfl

end Pool

/-- Taking what the provider has given is no contact with the world. -/
theorem Scene.accept_world (outcome : Except Fault (Option Schema)) (s : Scene W)
    : (s.accept outcome).2.world = s.world := by
  unfold accept
  split <;> rfl

namespace Store

theorem readSnapshot_snd (db : Database W) (schemaName : String) (pool : Pool) (w : W)
    : (readSnapshot db schemaName pool w).2 = (pool.run db (catalogQuery schemaName) w).2 := by
  rw [readSnapshot]
  generalize pool.run db (catalogQuery schemaName) w = done
  obtain ⟨outcome, _⟩ := done
  cases outcome with
  | ok _ => rfl
  | error fault => cases fault <;> rfl

/-- Loading the schema runs one statement on an open pool. -/
theorem reload_world (db : Database W) (schemaName : String) (pool : Pool)
    (isOpen : pool.isOpen = true) (service : Service) (metrics : Metrics) (w : W)
    : (Scene.reload (collaborators db schemaName) ⟨service, metrics, (pool, w)⟩).2.world
      = (pool, (db.run (catalogQuery schemaName) w).2) := by
  rw [Scene.reload, Scene.accept_world]
  change (readSnapshot db schemaName pool w).2 = _
  rw [readSnapshot_snd, Pool.run_of_open isOpen]

/-- Stores whose pools run every statement alike make services that are alike. -/
theorem collaborators_agree {R : Pool × V → Pool × W → Prop} {db : Database V}
    {other : Database W} (schemaName : String)
    (runs : ∀ statement {x y}, R x y →
      (x.1.run db statement x.2).1 = (y.1.run other statement y.2).1
        ∧ R (x.1.run db statement x.2).2 (y.1.run other statement y.2).2)
    : (collaborators db schemaName).Agree R (collaborators other schemaName) where
  load := by
    rintro metrics x y h
    have ran := runs (catalogQuery schemaName) h
    simp only [collaborators, readSnapshot]
    generalize x.1.run db (catalogQuery schemaName) x.2 = left at ran
    generalize y.1.run other (catalogQuery schemaName) y.2 = right at ran
    obtain ⟨outcome, _⟩ := left
    obtain ⟨_, _⟩ := right
    obtain ⟨rfl, worlds⟩ := ran
    cases outcome with
    | ok rows => exact ⟨rfl, rfl, worlds⟩
    | error fault => cases fault <;> exact ⟨rfl, rfl, worlds⟩
  execute := by
    rintro text parameters metrics x y h
    have ran := runs (toNamedBinds text parameters) h
    simp only [collaborators, execute]
    generalize x.1.run db (toNamedBinds text parameters) x.2 = left at ran
    generalize y.1.run other (toNamedBinds text parameters) y.2 = right at ran
    obtain ⟨outcome, _⟩ := left
    obtain ⟨_, _⟩ := right
    obtain ⟨rfl, worlds⟩ := ran
    cases outcome with
    | ok rows => exact ⟨rfl, rfl, worlds⟩
    | error fault => cases fault <;> exact ⟨rfl, rfl, worlds⟩
  inspect := rfl

end Store

end RideQuestions
