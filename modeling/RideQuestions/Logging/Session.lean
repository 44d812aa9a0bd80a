import RideQuestions.Config.Environment
import RideQuestions.Logging.Layout
import RideQuestions.Logging.Level

/-! Logging while a process runs. Loggers have dotted names and take the level of the nearest name
above them that has one. What passes the level of its logger goes to every handler, and each handler
keeps what passes its own level.
-/

namespace RideQuestions.Logging

open Calendar Config

/-- Where lines go. -/
inductive Sink where
  | file (path : String) (maxBytes backups : Int)
  | console

structure Handler where
  sink : Sink
  level : Int
  layout : Layout
  /-- The lines so far. -/
  lines : List String := []

/-- The loggers of a process, with its handlers and the numbers of the requests under way. -/
structure Session where
  rootLevel : Int
  levels : List (String × Int) := []
  handlers : List Handler := []
  zone : Zone := .utc
  /-- The innermost request first. -/
  requests : List (Option String) := []

/-- Keeps the line of a record unless the level of the handler is above that of the record. What
cannot be laid out is dropped. -/
def Handler.handle (h : Handler) (level : Int) (r : LogRecord) (zone : Zone) : Handler :=
  if level < h.level then h
  else
    match h.layout.write r zone with
    | .ok line => { h with lines := h.lines ++ [line] }
    | .error _ => h

/-- Why logging cannot be set up. -/
inductive SetupError where
  | unknownLevel (name : String)
  | layout (error : LayoutError)

def SetupError.message : SetupError → String
  | unknownLevel name => "unknown level " ++ Text.quoted name
  | layout error => error.message

/-- The level that a name stands for. -/
def levelOf (name : String) : Except SetupError Int :=
  match Level.ofName? name with
  | some level => .ok level
  | none => .error (.unknownLevel name)

/-- The name of the logger above all others. -/
def rootName : String := "root"

/-- Whether a name is one of the two of the logger above all others. -/
def isRoot (name : String) : Bool :=
  name.isEmpty || name = rootName

namespace Session

def setLevel (s : Session) (logger : String) (level : Int) : Session :=
  if isRoot logger then { s with rootLevel := level }
  else { s with levels := Value.put logger level s.levels }

/-- The level that a logger itself has. -/
def level (s : Session) (logger : String) : Int :=
  if isRoot logger then s.rootLevel else (s.levels.lookup logger).getD Level.unset

/-- A name and the names above it, the nearest first. -/
def lineage (logger : String) : List String :=
  let parts := Text.splitOn "." logger
  (List.range parts.length).map fun above =>
    String.intercalate "." (parts.take (parts.length - above))

/-- The level that decides for a logger. -/
def effectiveLevel (s : Session) (logger : String) : Int :=
  if isRoot logger then s.rootLevel
  else
    let levels := (lineage logger).map fun name => (s.levels.lookup name).getD Level.unset
    (levels.find? (· != Level.unset)).getD s.rootLevel

/-- The record of a message. A single map among the values of a message names them. -/
def recordOf (logger : String) (level : Int) (message : Value) (values : List Value)
    (seconds : Int) : LogRecord :=
  let arguments :=
    match values with
    | [.map (entry :: rest)] => Value.map (entry :: rest)
    | values => .list values
  {
    fields :=
      [
        ("name", .text (if isRoot logger then rootName else logger)), ("msg", message),
        ("args", arguments), ("levelname", .text (Level.name level)), ("levelno", .int level),
        ("created", .int seconds), ("msecs", .int 0)
      ]
  }

/-- Logs a message as of some second. -/
def log (s : Session) (logger : String) (level : Int) (message : Value) (values : List Value)
    (seconds : Int) : Session :=
  if level ≤ Level.unset || decide (level < s.effectiveLevel logger) then s
  else
    let r := (recordOf logger level message values seconds).tagged (s.requests.head?.join)
    { s with handlers := s.handlers.map fun h => h.handle level r s.zone }

/-- Begins a request. -/
def beginRequest (s : Session) (id : Option String) : Session :=
  { s with requests := id :: s.requests }

/-- Ends the request that began last. -/
def endRequest (s : Session) : Session :=
  { s with requests := s.requests.drop 1 }

/-- The handlers of a configuration: the file first, then the console. -/
def handlersOf (c : LoggingConfig) : Except SetupError (List Handler) := do
  let file : List Handler ←
    if c.toFile then do
      let layout ← (Layout.ofConfig c).mapError .layout
      let sink := Sink.file c.filePath (c.fileMegabytes * 1024 * 1024) c.backupCount
      pure [{ sink, level := ← levelOf c.level, layout }]
    else pure []
  let console : List Handler ←
    if c.toConsole then do
      let layout ← (Layout.ofConfig c).mapError .layout
      pure [{ sink := .console, level := ← levelOf c.consoleLevel, layout }]
    else pure []
  return file ++ console

/-- Sets logging up and says so. Noisy loggers only warn, whatever level they were given. -/
def start (c : LoggingConfig) (e : Environment) (seconds : Int) (zone : Zone := .utc)
    : Except SetupError Session := do
  let rootLevel ← levelOf c.level
  let handlers ← handlersOf c
  let named ← c.componentLevels.mapM fun (logger, name) => return (logger, ← levelOf name)
  let noisy := if c.suppressNoisy then c.noisy.map fun logger => (logger, Level.warning) else []
  let s : Session := { rootLevel, handlers, zone }
  let s := (named ++ noisy).foldl (fun s (logger, level) => s.setLevel logger level) s
  let message := "Logging configured for environment: " ++ e.name
  return s.log rootName Level.info (.text message) [] seconds

end Session

end RideQuestions.Logging
