import RideQuestions.CommandLine.Invocation
import RideQuestions.Config.Settings
import RideQuestions.Json.Encoding
import RideQuestions.Logging.Session
import RideQuestions.Store.Backed

/-! What the commands do. Compiling prints a query with its values and executes nothing; the schema
comes from a file, or else from the store of the settings.
-/

namespace RideQuestions.CommandLine

open Calendar Config Query

/-- Why a file has no text. -/
inductive FileError where
  | missing
  | directory
  | unreadable

def FileError.message : FileError → String
  | missing => "no such file"
  | directory => "is a directory"
  | unreadable => "cannot be read as text"

/-- What a command works with. -/
structure Surroundings (W : Type) where
  sources : Sources := {}
  fileText : String → Except FileError String
  database : Database W
  now : Instant
  /-- How deep lists and maps may lie inside one another in a schema file. -/
  room : Nat := Value.usualRoom

/-- How a command ends. -/
inductive Outcome where
  | help
  | printed (text : String)
  /-- There is no usable schema. -/
  | refused (message : String)
  | serving (host : String) (port : Int)

/-- The status that a process ends with. -/
def Outcome.exitStatus : Outcome → Nat
  | refused _ => 1
  | _ => 0

/-- The status that a process ends with when its command line is not understood. -/
def usageStatus : Nat := 2

/-- What breaks a command off. -/
inductive CommandError where
  | settings (error : SettingsError)
  | file (error : FileError)
  /-- A schema file is no JSON. -/
  | notJson
  | listing (error : Schema.CatalogError)
  /-- A table, a column or a type that matters is given by something that is no text. -/
  | notText
  | fault (fault : Fault)
  | compile (error : CompileError)
  | logging (error : Logging.SetupError)

def CommandError.message : CommandError → String
  | settings (.unreadable _) => "a section of the settings cannot be read"
  | settings (.invalid issues) => s!"{issues.length} invalid settings"
  | file error => error.message
  | notJson => "the schema file is no JSON"
  | listing error => error.message
  | notText => "a label of the schema is no text"
  | fault reason => reason.text
  | compile error => error.message
  | logging error => error.message

def noSchemaMessage : String :=
  "Pass --schema-file or configure PGHOST/PGDATABASE/PGUSER/PGPASSWORD"

/-- What breaks a command off when its schema file is not read. -/
def unreadFile : Json.ReadError → CommandError
  | .malformed => .notJson
  | .tooLong digits => .fault (.other .value (NumberError.unreadable digits).message)
  | .tooNested => .fault (.other .recursion NumberError.tooNested.message)

/-- The snapshot that a file describes. -/
def snapshotOfText (room : Nat) (text : Except FileError String)
    : Except CommandError (Snapshot Value) := do
  let listing ← (Json.readText room (← text.mapError .file)).mapError unreadFile
  (Schema.ofListing listing).mapError .listing

namespace CompileRequest

variable {W : Type}

/-- The configuration that a question is compiled under: a year given with it wins. -/
def config (r : CompileRequest) (settings : Settings) : CompilerConfig :=
  match r.referenceYear with
  | none => settings.compilerConfig
  | some year => { settings.compilerConfig with referenceYear := year }

/-- The file of a request; one without a name is none. -/
def file? (r : CompileRequest) : Option String :=
  r.schemaFile.filter fun path => !path.isEmpty

/-- Looks for the schema. A pool opened for that is closed again. -/
def snapshot (s : Surroundings W) (settings : Settings) (r : CompileRequest) (w : W)
    : Except CommandError (Snapshot Value) × W :=
  match r.file?, settings.databaseConfig? with
  | some path, _ => (snapshotOfText s.room (s.fileText path), w)
  | none, some config =>
      let pool : Pool := { config := some config }
      let (result, pool, w) := Store.readSnapshot s.database config.schemaName pool w
      (result.mapError .fault, (pool.close s.database w).2)
  | none, none =>
      (.error (.fault (.service (.saying .schemaUnavailable noSchemaMessage))), w)

/-- Whether compiling consults a type that is no text. -/
def consultsUntyped (snapshot : Snapshot Value) (reading : Reading) : Bool :=
  reading.consultedTypes.any fun m =>
    (Schema.untypedColumns snapshot).contains (m.table, m.column, m.declaredType)

/-- Compiles a question against a snapshot. -/
def compileAgainst (config : CompilerConfig) (snapshot : Snapshot Value) (question : String)
    (now : Instant) : Except CommandError CompiledQuery := do
  let scene : Scene Unit := { service := Service.new config, world := () }
  let (loaded, scene) := scene.accept (.ok (some (Schema.ofSnapshot snapshot)))
  loaded.mapError fun error => .fault (.service error)
  if Schema.hasNamelessColumn snapshot && !(Question.tokens question).isEmpty then
    .error .notText
  let (result, _) := scene.compile question now
  let query ← result.mapError .compile
  let reading ← (Compiler.reading config question query.candidates now).mapError .compile
  if consultsUntyped snapshot reading then .error .notText else return query

/-- What is printed of a compiled query. -/
def printed (query : CompiledQuery) : String :=
  let document :=
    Value.map
      [
        ("intent", .text query.intent.name), ("sql", .text query.text),
        ("parameters", .list query.parameters)
      ]
  Json.writeIndented 0 document ++ "\n"

/-- Compiles the question of a request. -/
def run (s : Surroundings W) (settings : Settings) (r : CompileRequest) (w : W)
    : Except CommandError Outcome × W :=
  let (snapshot, w) := r.snapshot s settings w
  let query := snapshot.bind fun snapshot =>
    compileAgainst (r.config settings) snapshot r.question s.now
  (query.map fun query => .printed (printed query), w)

end CompileRequest

/-- Sets logging up and tells where the server listens. An empty host and port zero stand for those
of the settings. -/
def ServeRequest.run {W : Type} (s : Surroundings W) (settings : Settings) (r : ServeRequest)
    : Except CommandError Outcome := do
  let environment := Environment.detect s.sources.vars
  let _ ← (Logging.Session.start settings.loggingConfig environment s.now.epochSeconds)
    |>.mapError .logging
  let server := settings.serverConfig
  let host := (r.host.filter fun host => !host.isEmpty).getD server.host
  let port := (r.port.filter (· != 0)).getD server.port
  return .serving host port

/-- A schema that is unavailable is refused; anything else breaks the command off. -/
def refusing (result : Except CommandError Outcome) : Except CommandError Outcome :=
  match result with
  | .error (.fault (.service error)) =>
      if error.kind = .schemaUnavailable then .ok (.refused error.message) else result
  | result => result

/-- Runs a command under the settings of its surroundings. -/
def run {W : Type} (s : Surroundings W) (invocation : Invocation) (w : W)
    : Except CommandError Outcome × W :=
  match invocation, (Settings.load s.sources {}).1 with
  | .help, _ => (.ok .help, w)
  | _, .error error => (.error (.settings error), w)
  | .serve request, .ok settings => (request.run s settings, w)
  | .compile request, .ok settings =>
      let (result, w) := request.run s settings w
      (refusing result, w)

end RideQuestions.CommandLine
