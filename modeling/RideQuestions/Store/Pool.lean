import RideQuestions.Config.Forms
import RideQuestions.Query.Placeholder
import RideQuestions.Service.Fault
import RideQuestions.Service.Metrics

/-! The pool of connections to the store. It is opened with its first use, can be asked whether the
store answers, and is open again after it was closed as soon as it is used again.
-/

namespace RideQuestions

open Config Query

/-- What a store can do with the world that it lives in. -/
structure Database (W : Type) where
  /-- Opens a pool of connections. -/
  openPool : DatabaseConfig → W → W
  /-- Runs a statement on a connection of the pool. -/
  run : NamedStatement → W → Except Fault (List Row) × W
  /-- Closes every connection of the pool. -/
  closePool : W → W

structure Pool where
  config : Option DatabaseConfig
  isOpen : Bool := false

/-- A pool without a configuration was not handed over open either. -/
structure NoDatabase where

def NoDatabase.message (_ : NoDatabase) : String :=
  "Either a database configuration or an engine is required"

namespace Pool

variable {W : Type}

/-- A pool for a configuration, or one that was opened elsewhere. -/
def of (config : Option DatabaseConfig) (isOpen : Bool) : Except NoDatabase Pool :=
  if config.isNone && !isOpen then .error {} else .ok { config, isOpen }

/-- Opens the pool unless it is open, which needs a configuration. -/
def ensureOpen (db : Database W) (pool : Pool) (w : W) : Except Fault Unit × Pool × W :=
  if pool.isOpen then (.ok (), pool, w)
  else
    match pool.config with
    | none => (.error (.other .unconfigured "no database is configured"), pool, w)
    | some config => (.ok (), { pool with isOpen := true }, db.openPool config w)

/-- Runs a statement. -/
def run (db : Database W) (statement : NamedStatement) (pool : Pool) (w : W)
    : Except Fault (List Row) × Pool × W :=
  match pool.ensureOpen db w with
  | (.error fault, pool, w) => (.error fault, pool, w)
  | (.ok (), pool, w) =>
      let (rows, w) := db.run statement w
      (rows, pool, w)

/-- The statement that shows that the store answers. -/
def healthCheck : NamedStatement :=
  { text := "SELECT 1", binds := [] }

def ping (db : Database W) (pool : Pool) (w : W) : Except Fault Unit × Pool × W :=
  let (rows, pool, w) := pool.run db healthCheck w
  (rows.map fun _ => (), pool, w)

/-- Proves that one connection works. -/
def connect (db : Database W) (metrics : Metrics) (pool : Pool) (w : W)
    : Except Fault Unit × Metrics × Pool × W :=
  match pool.ping db w with
  | (.ok (), pool, w) =>
      (.ok (), metrics.count "database.connections.established" 1, pool, w)
  | (.error fault, pool, w) => (.error fault, metrics, pool, w)

/-- Whether the store answers. A failure of the store says no, any other is passed on. -/
def isHealthy (db : Database W) (pool : Pool) (w : W) : Except Fault Bool × Pool × W :=
  match pool.ping db w with
  | (.ok (), pool, w) => (.ok true, pool, w)
  | (.error (.store _ _), pool, w) => (.ok false, pool, w)
  | (.error fault, pool, w) => (.error fault, pool, w)

/-- Closes the pool if it is open. -/
def close (db : Database W) (pool : Pool) (w : W) : Pool × W :=
  if pool.isOpen then ({ pool with isOpen := false }, db.closePool w) else (pool, w)

end Pool

end RideQuestions
