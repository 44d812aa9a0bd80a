import RideQuestions.Text.Quoted
import RideQuestions.Value

/-! What can go wrong while a question is answered: errors of the service itself, which carry a
code and details, and failures of everything it works with.
-/

namespace RideQuestions

inductive ServiceErrorKind where
  | general
  | emptyInput
  | uncompilable
  | executionFailure
  | schemaUnavailable
  deriving DecidableEq

namespace ServiceErrorKind

/-- The name under which an error is reported. -/
def label : ServiceErrorKind → String
  | general => "QueryServiceError"
  | emptyInput => "EmptyInputError"
  | uncompilable => "UncompilableQueryError"
  | executionFailure => "ExecutionFailureError"
  | schemaUnavailable => "SchemaUnavailableError"

def defaultMessage : ServiceErrorKind → String
  | general => "Query service error"
  | emptyInput => "Question cannot be empty"
  | uncompilable => "Unable to generate SQL query from the question"
  | executionFailure => "Query execution failed"
  | schemaUnavailable => "Database schema is unavailable"

def defaultCode : ServiceErrorKind → String
  | general => "QUERY_SERVICE_ERROR"
  | emptyInput => "EMPTY_INPUT"
  | uncompilable => "UNCOMPILABLE_QUERY"
  | executionFailure => "EXECUTION_FAILURE"
  | schemaUnavailable => "SCHEMA_UNAVAILABLE"

def all : List ServiceErrorKind :=
  [general, emptyInput, uncompilable, executionFailure, schemaUnavailable]

end ServiceErrorKind

structure ServiceError where
  kind : ServiceErrorKind
  message : String
  code : String
  details : List (String × Value) := []

private def unlessEmpty (text default : String) : String :=
  if text.isEmpty then default else text

/-- An error with a message and a code; where either is empty, that of its kind stands for it. -/
def ServiceError.of (kind : ServiceErrorKind) (message code : String)
    (details : List (String × Value)) : ServiceError :=
  {
    kind,
    message := unlessEmpty message kind.defaultMessage,
    code := unlessEmpty code kind.defaultCode,
    details
  }

/-- An error with the code of its kind and no details. -/
def ServiceError.saying (kind : ServiceErrorKind) (message : String) : ServiceError :=
  .of kind message "" []

/-- Failures without data of their own. -/
inductive FaultKind where
  | value
  | type
  | overflow
  | runtime
  | connection
  | grouping
  | recursion
  | unconfigured
  deriving DecidableEq

/-- The name under which a failure is reported. -/
def FaultKind.label : FaultKind → String
  | value => "ValueError"
  | type => "TypeError"
  | overflow => "OverflowError"
  | runtime => "RuntimeError"
  | connection => "ConnectionError"
  | grouping => "SQLParseError"
  | recursion => "RecursionError"
  | unconfigured => "AttributeError"

/-- Any failure. -/
inductive Fault where
  | service (error : ServiceError)
  /-- A failure of the store, with the text of its driver where there is one. -/
  | store (text : String) (driver : Option String)
  | missingKey (key : String)
  | other (kind : FaultKind) (text : String)

namespace Fault

/-- What a failure says. -/
def text : Fault → String
  | service error => error.message
  | store text _ => text
  | missingKey key => Text.quoted key
  | other _ text => text

/-- What the driver of the store says, or else the failure itself. -/
def driverText : Fault → String
  | store text driver => driver.getD text
  | fault => fault.text

/-- The name under which a failure is reported. -/
def label : Fault → String
  | service error => error.kind.label
  | store _ _ => "SQLAlchemyError"
  | missingKey _ => "KeyError"
  | other kind _ => kind.label

/-- The name of a failure with the component that it belongs to. -/
def qualifiedLabel (f : Fault) : String :=
  match f with
  | service _ => "query_server.errors." ++ f.label
  | store _ _ => "sqlalchemy.exc." ++ f.label
  | _ => f.label

/-- A failure as it stands in the log: its name, and what it says unless that is nothing. -/
def logText (f : Fault) : String :=
  if f.text.isEmpty then f.qualifiedLabel else f.qualifiedLabel ++ ": " ++ f.text

end Fault

end RideQuestions
