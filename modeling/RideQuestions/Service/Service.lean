import RideQuestions.Query.Compiler
import RideQuestions.Service.Answer
import RideQuestions.Service.Fault
import RideQuestions.Service.Metrics
import RideQuestions.Sql.Guard

/-! Answering questions: the schema is loaded once, each question is compiled, the guard looks at
the query, the store executes it, and the rows are collapsed into an answer.
-/

namespace RideQuestions

open Calendar Query

/-- The answer to one question, or what went wrong with it. -/
structure Response where
  query : String := ""
  result : Value := .null
  error : Option String := none

/-- The answer that only says what went wrong. -/
def Response.failure (message : String) : Response :=
  { error := some message }

/-- The part of the service that a question may change: the compiler with its schema and cache. -/
structure Service where
  compiler : Compiler
  /-- Set when a schema has been loaded. -/
  loaded : Bool := false

/-- The service, its metrics and the world outside as one state. -/
structure Scene (W : Type) where
  service : Service
  metrics : Metrics := {}
  world : W

/-- What the service works with. Everything but the guard may change the metrics and the world. -/
structure Collaborators (W : Type) where
  /-- Asks for the schema; it may have none to give. -/
  load : Metrics → W → Except Fault (Option Schema) × Metrics × W
  /-- Executes a query with its bound values. -/
  execute : String → List Value → Metrics → W → Except Fault (List Row) × Metrics × W
  /-- Looks at a query before it is executed. -/
  inspect : String → List Value → Except Fault Sql.Verdict

/-- What a failure of the guard is to a service. -/
def inspectionFault (error : Sql.InspectionError) : Fault :=
  match error with
  | .grouping _ => .other .grouping error.message
  | .placeholder _ => .other .value error.message

/-- The guard that a service has unless it is given another. -/
def Service.guard (text : String) (parameters : List Value) : Except Fault Sql.Verdict :=
  (Sql.inspect text (some parameters.length) true).mapError inspectionFault

def Service.new (config : CompilerConfig) : Service :=
  { compiler := Compiler.new config }

/-- The schema in use. -/
def Service.schema (s : Service) : Schema :=
  s.compiler.mapper.schema

namespace Scene

variable {W : Type}

def count (s : Scene W) (name : String) : Scene W :=
  { s with metrics := s.metrics.count name 1 }

/-- The schema that a provider has given, unless it gave none or one without columns. Any failure
of the provider makes the schema unavailable. -/
def received (outcome : Except Fault (Option Schema)) : Except ServiceError Schema :=
  match outcome with
  | .error (.service error) =>
      if error.kind = .schemaUnavailable then .error error
      else .error (.saying .schemaUnavailable ("Failed to load database schema: " ++ error.message))
  | .error fault =>
      .error (.saying .schemaUnavailable ("Failed to load database schema: " ++ fault.text))
  | .ok none => .error (.saying .schemaUnavailable "Schema provider returned no tables")
  | .ok (some schema) =>
      if schema.isEmpty then
        .error (.saying .schemaUnavailable "Schema provider returned no tables")
      else .ok schema

/-- Asks for the schema. -/
def askSchema (c : Collaborators W) (s : Scene W) : Except Fault (Option Schema) × Scene W :=
  let (outcome, metrics, world) := c.load s.metrics s.world
  (outcome, { s with metrics, world })

/-- Takes what a provider has given: a usable schema is published together with an empty cache, and
anything else changes nothing. -/
def accept (outcome : Except Fault (Option Schema)) (s : Scene W)
    : Except ServiceError Unit × Scene W :=
  match received outcome with
  | .error error => (.error error, s)
  | .ok schema =>
      let service := { compiler := s.service.compiler.publish schema, loaded := true }
      (.ok (), { s with service }.count "query_service.schema_loads")

/-- Loads the schema anew. -/
def reload (c : Collaborators W) (s : Scene W) : Except ServiceError Unit × Scene W :=
  let (outcome, s) := s.askSchema c
  s.accept outcome

/-- Loads the schema unless that was done before. -/
def ensureLoaded (c : Collaborators W) (s : Scene W) : Except ServiceError Unit × Scene W :=
  if s.service.loaded then (.ok (), s) else s.reload c

/-- Compiles a question as of some instant. -/
def compile (question : String) (now : Instant) (s : Scene W)
    : Except CompileError CompiledQuery × Scene W :=
  let (result, compiler) := s.service.compiler.compile question now
  let (result, metrics) := s.metrics.track "compiler.compile" fun m => (result, m)
  (result, { s with service := { s.service with compiler }, metrics })

/-- The name that failures of a kind are counted under. -/
def failureCounter : Fault → String
  | .service error => "query_service.errors." ++ Text.lower error.code
  | _ => "query_service.errors.execution_failure"

/-- Counts a failure and turns it into an answer. -/
def fail (fault : Fault) (s : Scene W) : Response × Scene W :=
  (.failure fault.text, s.count (failureCounter fault))

/-- What the guard says about a compiled query; one that says nothing is refused without it. -/
def approve (c : Collaborators W) (query : CompiledQuery) : Except Fault Unit :=
  if isEmptyText query.text then .error (.service (.saying .uncompilable ""))
  else
    match c.inspect query.text query.parameters with
    | .error fault => .error fault
    | .ok verdict =>
        if verdict.isValid then .ok ()
        else
          let details := [("errors", Value.list (verdict.errors.map .text))]
          .error (.service (.of .uncompilable "" "" details))

/-- Why a compiled question is no query. -/
def compileFault (error : CompileError) : Fault :=
  .other (if error.isOverflow then .overflow else .value) error.message

/-- Compiles a question into a query that the guard has approved. -/
def prepare (c : Collaborators W) (question : String) (now : Instant) (s : Scene W)
    : Except Fault CompiledQuery × Scene W :=
  match s.compile question now with
  | (.error error, s) => (.error (compileFault error), s)
  | (.ok query, s) => ((approve c query).map fun _ => query, s)

/-- Executes a query. -/
def execute (c : Collaborators W) (query : CompiledQuery) (s : Scene W)
    : Except Fault (List Row) × Scene W :=
  let metrics := s.metrics.withTimer "query_service.execution"
  let (rows, metrics, world) := c.execute query.text query.parameters metrics s.world
  (rows, { s with metrics := metrics.clocked "query_service.execution", world })

/-- Answers a question once the schema is loaded. A number that cannot be collapsed is the only
failure that is no answer. -/
def respond (c : Collaborators W) (question : String) (now : Instant) (s : Scene W)
    : Except NumberError Response × Scene W :=
  match s.prepare c question now with
  | (.error fault, s) =>
      let (response, s) := s.fail fault
      (.ok response, s)
  | (.ok query, s) =>
      match s.execute c query with
      | (.error fault, s) =>
          let (response, s) := s.fail fault
          (.ok response, s)
      | (.ok rows, s) =>
          let result := Answer.ofRows rows query.intent
          (result.map fun result => { query := query.text, result },
            s.count "query_service.answered")

/-- The text of a question, if it is one that says something. -/
def askable (question : Option String) : Except ServiceError String :=
  match question with
  | none => .error (.saying .emptyInput "")
  | some text => if Text.isBlankText text then .error (.saying .emptyInput "") else .ok text

/-- Answers one question. What is no text, or a blank one, is refused before anything is loaded. -/
def answer (c : Collaborators W) (question : Option String) (now : Instant) (s : Scene W)
    : Except NumberError Response × Scene W :=
  let s := s.count "query_service.questions"
  match askable question with
  | .error error =>
      let (response, s) := s.fail (.service error)
      (.ok response, s)
  | .ok text =>
      match s.ensureLoaded c with
      | (.error error, s) =>
          let (response, s) := s.fail (.service error)
          (.ok response, s)
      | (.ok (), s) => s.respond c text now

end Scene

end RideQuestions
