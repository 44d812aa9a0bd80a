import RideQuestions.Config.VariableFile
import RideQuestions.Config.Layer

/-! The settings of the service: single fields for the store and the server, and one section each
for the database, the compiler, the server and the log. Given values win over variables of the
process, these over variables of a file, and these over defaults.
-/

namespace RideQuestions.Config

open RideQuestions.Text

/-- A section of the settings; one that may be left out has no default. -/
structure Section where
  name : String
  form : Form
  optional : Bool

def databaseSection : Section := ⟨"database", databaseForm, true⟩
def compilerSection : Section := ⟨"compiler", compilerForm, false⟩
def serverSection : Section := ⟨"server", serverForm, true⟩
def loggingSection : Section := ⟨"logging", loggingForm, false⟩

def sections : List Section :=
  [databaseSection, compilerSection, serverSection, loggingSection]

/-- The single fields, by the names of the variables that give them. -/
def plainFields : List Field :=
  [
    .mk "PGHOST" .text (some (.text "")),
    .mk "PGPORT" (.int none) (some (.int 5432)),
    .mk "PGDATABASE" .text (some (.text "")),
    .mk "PGUSER" .text (some (.text "")),
    .mk "PGPASSWORD" .secret (some (.text "")),
    .mk "PGSSLMODE" .text (some (.text "prefer")),
    .mk "HOST" .text (some (.text "0.0.0.0")),
    .mk "PORT" (.int none) (some (.int 3000))
  ]

/-- The field that names the environment. -/
def environmentField : String := "environment"

structure Settings where
  environment : Environment
  plain : Record
  database : Option Record
  compiler : Record
  server : Record
  logging : Record

namespace Settings

/-- The names of the variables without which there is no database, as far as they are empty. -/
def missingIn (plain : Record) : List String :=
  ["PGHOST", "PGDATABASE", "PGUSER", "PGPASSWORD"].filter fun name =>
    (Record.text plain name "").isEmpty

def missing (s : Settings) : List String :=
  missingIn s.plain

def databaseConfig? (s : Settings) : Option DatabaseConfig :=
  s.database.map DatabaseConfig.ofRecord

def compilerConfig (s : Settings) : Query.CompilerConfig :=
  compilerOfRecord s.compiler

def serverConfig (s : Settings) : ServerConfig :=
  ServerConfig.ofRecord s.server

def loggingConfig (s : Settings) : LoggingConfig :=
  LoggingConfig.ofRecord s.logging

end Settings

/-- The values that variables give, section by section. -/
def layerOf (vars : Variables) : Except SectionError Layer := do
  let vars := lowerNames vars
  let single := (environmentField :: plainFields.map Field.name).filterMap fun name =>
    (vars.lookup (lower name)).map fun text => (name, Value.text text)
  let found ← sections.mapM fun s => do
    let value? ← readSection s.name s.form.fields s.optional vars
    return (value?.map fun value => (s.name, value)).toList
  return single ++ found.flatten

/-- Reads the name of the environment; nothing but its letter case may differ. -/
def readEnvironment (value : Value) : Except (List Issue) Environment :=
  match value with
  | .text text =>
      match Environment.ofName? (lower text) with
      | some e => .ok e
      | none => .error [⟨[.key environmentField], .valueError⟩]
  | _ => .error [⟨[.key environmentField], .enum⟩]

/-- Checks a section; one that may be left out may also be null. -/
def checkSection (s : Section) (value : Value) : Except (List Issue) (Option Record) :=
  match value, s.optional with
  | .null, true => .ok none
  | value, _ =>
      match check s.form.trims (.nested s.form.fields) value with
      | .ok (.map record) => .ok (some record)
      | .ok _ => .ok none
      | .error issues => .error (issues.map (Issue.under (.key s.name)))

/-- The outcome of a section: as given, or else its default. -/
def sectionOf (s : Section) (layer : Layer) (default : Option Record)
    : Except (List Issue) (Option Record) :=
  match Value.lookup? s.name layer with
  | some value => checkSection s value
  | none => .ok default

def issuesOf {α : Type} : Except (List Issue) α → List Issue
  | .ok _ => []
  | .error issues => issues

/-- The database that the single fields describe, if none of the needed ones is empty. The password
has been read as a secret before and stays as it is. -/
def derivedDatabase (plain : Record) : Except (List Issue) (Option Record) :=
  if (Settings.missingIn plain).isEmpty then
    let value := fun (source : String) => (Value.lookup? source plain).getD .null
    (databaseForm.fill
      [("host", value "PGHOST"), ("port", value "PGPORT"), ("database", value "PGDATABASE"),
       ("username", value "PGUSER"), ("password", value "PGPASSWORD"),
       ("sslmode", value "PGSSLMODE")]).map
        fun record => some (Value.put "password" (value "PGPASSWORD") record)
  else .ok none

def derivedServer (plain : Record) : Except (List Issue) Record :=
  serverForm.fill
    [("host", (Value.lookup? "HOST" plain).getD .null),
     ("port", (Value.lookup? "PORT" plain).getD .null)]

/-- The environment that a layer names, or else the detected one. -/
def environmentOf (layer : Layer) (detected : Environment) : Except (List Issue) Environment :=
  match Value.lookup? environmentField layer with
  | some value => readEnvironment value
  | none => .ok detected

/-- The database of its section, or else the one that the single fields describe. -/
def databaseOf (database : Option Record) (plain : Record)
    : Except (List Issue) (Option Record) :=
  match database with
  | some record => .ok (some record)
  | none => derivedDatabase plain

def serverOf (server : Option Record) (plain : Record) : Except (List Issue) Record :=
  match server with
  | some record => .ok record
  | none => derivedServer plain

/-- Checks a layer. The issues of all its fields are reported together, and only a layer without
any goes on to the sections that are derived from single fields. -/
def Settings.ofLayer (layer : Layer) (detected : Environment) : Except (List Issue) Settings :=
  let environment := environmentOf layer detected
  let plain := checkFields false plainFields layer
  let database := sectionOf databaseSection layer none
  let compiler := sectionOf compilerSection layer (some compilerForm.defaults)
  let server := sectionOf serverSection layer none
  let logging := sectionOf loggingSection layer (some (loggingDefaults detected))
  match environment, plain, database, compiler, server, logging with
  | .ok environment, .ok plain, .ok database, .ok compiler, .ok server, .ok logging => do
      let database ← databaseOf database plain
      let server ← serverOf server plain
      return {
        environment, plain, database, server,
        compiler := compiler.getD compilerForm.defaults,
        logging := logging.getD (loggingDefaults detected)
      }
  | environment, plain, database, compiler, server, logging =>
      .error
        (issuesOf environment ++ issuesOf plain ++ issuesOf database ++ issuesOf compiler
          ++ issuesOf server ++ issuesOf logging)

/-- Why there are no settings. -/
inductive SettingsError where
  | unreadable (error : SectionError)
  | invalid (issues : List Issue)

/-- Where settings come from. -/
structure Sources where
  given : Layer := []
  vars : Variables := []
  /-- The text of a file with further variables. -/
  file : Option String := none

/-- The layers of some sources, laid over one another. -/
def Sources.layer (s : Sources) : Except SectionError Layer := do
  let upper ← layerOf s.vars
  let lower ← layerOf ((s.file.map (VariableFile.read s.vars)).getD [])
  return overlay (overlay lower upper) s.given

/-- What a process remembers: the environment that it detected first. -/
structure Memory where
  environment : Option Environment := none

/-- The environment of a process, detected at most once. -/
def Memory.environmentOf (m : Memory) (vars : Variables) : Environment :=
  m.environment.getD (Environment.detect vars)

/-- Whether the detected environment is looked at: when no other is given, or when it has to tell
how to log. -/
def needsEnvironment (layer : Layer) : Bool :=
  (Value.lookup? environmentField layer).isNone
    || (Value.lookup? loggingSection.name layer).isNone

/-- Loads settings, remembering the environment if it had to be detected. -/
def Settings.load (sources : Sources) (memory : Memory)
    : Except SettingsError Settings × Memory :=
  match sources.layer with
  | .error error => (.error (.unreadable error), memory)
  | .ok layer =>
      let detected := memory.environmentOf sources.vars
      let memory :=
        if needsEnvironment layer then { environment := some detected } else memory
      ((Settings.ofLayer layer detected).mapError .invalid, memory)

end RideQuestions.Config
