import RideQuestions.Schema.Catalog
import RideQuestions.Service.Service
import RideQuestions.Store.Pool

/-! A service backed by a store: the schema is read from the store's catalog of columns, and
queries are executed with named binds.
-/

namespace RideQuestions.Store

open Query

variable {W : Type}

/-- Asks for the columns of all tables of a schema. -/
def catalogQuery (schemaName : String) : NamedStatement :=
  {
    text :=
      "SELECT table_name, column_name, data_type, is_nullable "
        ++ "FROM information_schema.columns "
        ++ "WHERE table_schema = :schema_name "
        ++ "ORDER BY table_name, ordinal_position",
    binds := [("schema_name", .text schemaName)]
  }

/-- What is wrong with the rows of a catalog. -/
def catalogFault : Schema.CatalogError → Fault
  | .missing key => .missingKey key
  | .noKey kind => .other .type (Schema.CatalogError.noKey kind).message
  | .unwritten .tooNested => .other .recursion NumberError.tooNested.message
  | reason => .other .value reason.message

/-- The snapshot that the rows of a catalog describe; a schema without tables is unavailable. -/
def snapshotOf (schemaName : String) (rows : List Row) : Except Fault (Snapshot Value) :=
  match Schema.ofRows rows with
  | .error reason => .error (catalogFault reason)
  | .ok snapshot =>
      if snapshot.isEmpty then
        .error (.service
          (.saying .schemaUnavailable ("No tables found in schema '" ++ schemaName ++ "'")))
      else .ok snapshot

/-- Reads the catalog. A failure of the store makes the schema unavailable. -/
def readSnapshot (db : Database W) (schemaName : String) (pool : Pool) (w : W)
    : Except Fault (Snapshot Value) × Pool × W :=
  match pool.run db (catalogQuery schemaName) w with
  | (.ok rows, pool, w) => (snapshotOf schemaName rows, pool, w)
  | (.error (.store text driver), pool, w) =>
      let reason := "Failed to load database schema: " ++ (Fault.store text driver).driverText
      (.error (.service (.saying .schemaUnavailable reason)), pool, w)
  | (.error fault, pool, w) => (.error fault, pool, w)

/-- Executes a query with numbered placeholders. A failure of the store is reported with what its
driver says. -/
def execute (db : Database W) (text : String) (parameters : List Value) (metrics : Metrics)
    (pool : Pool) (w : W) : Except Fault (List Row) × Metrics × Pool × W :=
  let (rows, pool, w) := pool.run db (toNamedBinds text parameters) w
  let metrics := metrics.clocked "database.query.duration"
  match rows with
  | .ok rows => (.ok rows, metrics.count "database.query.success" 1, pool, w)
  | .error (.store text driver) =>
      let reason := Text.trim (Fault.store text driver).driverText
      (.error (.service (.saying .executionFailure reason)),
        metrics.count "database.query.errors" 1, pool, w)
  | .error fault => (.error fault, metrics, pool, w)

/-- What a service on a store works with. -/
def collaborators (db : Database W) (schemaName : String) : Collaborators (Pool × W) :=
  {
    load := fun metrics (pool, w) =>
      let (snapshot, state) := readSnapshot db schemaName pool w
      (snapshot.map fun s => some (Schema.ofSnapshot s), metrics, state),
    execute := fun text parameters metrics (pool, w) => execute db text parameters metrics pool w,
    inspect := Service.guard
  }

end RideQuestions.Store
