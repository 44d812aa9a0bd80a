import RideQuestions.Config.Settings
import RideQuestions.Store.Backed

/-! The server: it builds its service on the store of its settings when it starts, and closes the
pool of connections when it stops. The service outlives the stop.
-/

namespace RideQuestions

open Config Calendar

/-- A server with the service that it has built and the pool that it has opened for it. -/
structure Server (W : Type) where
  settings : Settings
  service : Option Service := none
  metrics : Metrics := {}
  /-- The pool that was made last, which the service goes on using. -/
  pool : Option Pool := none
  /-- Whether the server still has a hold on the pool. -/
  holdsPool : Bool := false
  world : W

/-- The state of a server as it is reported. -/
structure Health where
  databaseHealthy : Option Bool
  schemaLoaded : Bool
  tables : Nat
  metrics : Metrics

/-- A server whose store does not answer is degraded. -/
def Health.status (h : Health) : String :=
  if h.databaseHealthy = some false then "DEGRADED" else "OK"

/-- The health of a service, given that of its store where there is one. -/
def Health.of (service : Option Service) (metrics : Metrics) (databaseHealthy : Option Bool)
    : Health :=
  {
    databaseHealthy,
    schemaLoaded := (service.map Service.loaded).getD false,
    tables := ((service.map fun s => s.schema.tableNames.length).getD 0),
    metrics
  }

namespace Server

variable {W : Type}

/-- The name of the schema that holds the ride tables. -/
def schemaName (s : Server W) : String :=
  ((s.settings.databaseConfig?).map DatabaseConfig.schemaName).getD "public"

def missingMessage (names : List String) : String :=
  "Missing database settings: " ++ String.intercalate ", " names

/-- Opens the pool and proves that the store answers, unless settings are missing. -/
def build (db : Database W) (s : Server W) : Except Fault Service × Server W :=
  if !s.settings.missing.isEmpty then
    (.error (.service (.saying .schemaUnavailable (missingMessage s.settings.missing))), s)
  else
    match Pool.of s.settings.databaseConfig? false with
    | .error reason => (.error (.other .value reason.message), s)
    | .ok pool =>
        let (result, metrics, pool, world) := pool.connect db s.metrics s.world
        let s := { s with metrics, world, pool := some pool, holdsPool := true }
        match result with
        | .ok () => (.ok (Service.new s.settings.compilerConfig), s)
        | .error (.store text driver) =>
            let reason := (Fault.store text driver).driverText
            (.error (.service
              (.saying .schemaUnavailable ("Cannot connect to database: " ++ reason))), s)
        | .error fault => (.error fault, s)

/-- Closes the pool that the server has a hold on. -/
def shutdown (db : Database W) (s : Server W) : Server W :=
  match s.pool, s.holdsPool with
  | some pool, true =>
      let (pool, world) := pool.close db s.world
      { s with pool := some pool, world, holdsPool := false }
  | _, _ => s

/-- Lets the service act on the pool that was made for it. -/
def acting {α : Type} (s : Server W) (service : Service) (pool : Pool)
    (act : Scene (Pool × W) → α × Scene (Pool × W)) : α × Server W :=
  let scene : Scene (Pool × W) := { service, metrics := s.metrics, world := (pool, s.world) }
  let (result, scene) := act scene
  (result,
    {
      s with
      service := some scene.service,
      metrics := scene.metrics,
      pool := some scene.world.1,
      world := scene.world.2
    })

/-- The pool of the service, which a server that never made one would have to open. -/
def servicePool (s : Server W) : Pool :=
  s.pool.getD { config := s.settings.databaseConfig? }

/-- Loads the schema of a service; a server that cannot stops again. -/
def load (db : Database W) (service : Service) (s : Server W) : Except Fault Unit × Server W :=
  let c := Store.collaborators db s.schemaName
  let (result, s) := s.acting service s.servicePool fun scene => scene.ensureLoaded c
  match result with
  | .ok () =>
      (.ok (), { s with metrics := s.metrics.count "query_server.startup.total" 1 })
  | .error error => (.error (.service error), s.shutdown db)

/-- Starts the server: builds the service unless there is one, and loads the schema. -/
def startup (db : Database W) (s : Server W) : Except Fault Unit × Server W :=
  match s.service with
  | some service => s.load db service
  | none =>
      match s.build db with
      | (.error fault, s) => (.error fault, s)
      | (.ok service, s) => s.load db service

/-- The health of the server, and of the store if the server has a hold on its pool. -/
def health (db : Database W) (s : Server W) : Except Fault Health × Server W :=
  match s.pool, s.holdsPool with
  | some pool, true =>
      let (healthy, pool, world) := pool.isHealthy db s.world
      let s := { s with pool := some pool, world }
      (healthy.map fun healthy => Health.of s.service s.metrics (some healthy), s)
  | _, _ => (.ok (Health.of s.service s.metrics none), s)

/-- A question that no answer was given to. -/
inductive AskError where
  /-- The server was never started. -/
  | noService
  | number (error : NumberError)

/-- Answers a question. -/
def ask (db : Database W) (question : String) (now : Instant) (s : Server W)
    : Except AskError Response × Server W :=
  match s.service with
  | none => (.error .noService, s)
  | some service =>
      let c := Store.collaborators db s.schemaName
      let (result, s) := s.acting service s.servicePool fun scene =>
        scene.answer c (some question) now
      (result.mapError .number, s)

end Server

end RideQuestions
