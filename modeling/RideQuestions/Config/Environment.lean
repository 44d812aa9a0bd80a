import RideQuestions.Config.Forms
import RideQuestions.Text.Blank

/-! The environment that the service is deployed in, told from variables of the process. It
decides how much is logged and where.
-/

namespace RideQuestions.Config

/-- Variables by name, in the order in which they were set. -/
abbrev Variables := List (String × String)

inductive Environment where
  | development
  | testing
  | staging
  | production
  deriving DecidableEq

namespace Environment

def name : Environment → String
  | development => "development"
  | testing => "testing"
  | staging => "staging"
  | production => "production"

def all : List Environment :=
  [development, testing, staging, production]

def ofName? (text : String) : Option Environment :=
  all.find? (·.name = text)

/-- Debug answers are given only where nothing is deployed. -/
def allowsDebug (e : Environment) : Bool :=
  e = development || e = testing

def logLevel : Environment → String
  | production => "WARNING"
  | staging => "INFO"
  | _ => "DEBUG"

/-- The variables that may name the environment, the first one first. -/
def variableNames : List String :=
  ["ENVIRONMENT", "APP_ENV"]

/-- The environment that some variables name: blanks around a name and its letter case do not
matter, and what names no environment is passed over. -/
def detect (vars : Variables) : Environment :=
  let named := variableNames.filterMap fun name =>
    (vars.lookup name).bind fun text => ofName? (Text.lower (Text.trim text))
  named.head?.getD development

end Environment

/-- How a service logs in an environment unless it is told otherwise. -/
def loggingDefaults (e : Environment) : Record :=
  let changes : List (String × Value) :=
    match e with
    | .development =>
        [("console_level", .text "DEBUG"), ("enable_json_logging", .bool false)]
    | .testing =>
        [("console_level", .text "WARNING"), ("enable_file_logging", .bool false)]
    | .staging => []
    | .production =>
        [("console_level", .text "WARNING"), ("enable_json_logging", .bool true),
         ("max_file_size_mb", .int 100), ("backup_count", .int 10)]
  (("level", .text e.logLevel) :: changes).foldl
    (fun record (name, value) => Value.put name value record) loggingForm.defaults

end RideQuestions.Config
