import RideQuestions.Logging.Template
import RideQuestions.Service.Fault

/-! Records of the log. A record has its own fields and any others that were put on it; a request
that is under way leaves its number on every record.
-/

namespace RideQuestions.Logging

open Number

structure LogRecord where
  /-- The fields in the order in which they were put on the record. -/
  fields : List (String × Value)
  /-- What went wrong where the record was made. -/
  fault : Option Fault := none
  /-- The text that is reported of it, with the calls that led there if they are known. A record may
  have a report where nothing went wrong. -/
  report : Option String := fault.map Fault.logText

/-- Whether a value is nothing, zero or empty. -/
def isVoid : Value → Bool
  | .null => true
  | .bool b => !b
  | .int n => n = 0
  | .float x => x.magnitude = 0
  | .decimal (.finite _ coefficient _) => coefficient = 0
  | .decimal _ => false
  | .text s => s.isEmpty
  | .list items => items.isEmpty
  | .map entries => entries.isEmpty

/-- The fields that every record has of its own. -/
def reservedFields : List String :=
  [
    "name", "msg", "args", "levelname", "levelno", "pathname", "filename", "module", "lineno",
    "funcName", "created", "msecs", "relativeCreated", "thread", "threadName", "processName",
    "process", "exc_info", "exc_text", "stack_info", "taskName", "message", "asctime"
  ]

/-- Whether a field is neither one of a record's own nor begins with an underscore. -/
def isExtra (name : String) : Bool :=
  !reservedFields.contains name && name.toList.head? != some '_'

namespace LogRecord

/-- The value of a field; null for one that is missing. -/
def field (r : LogRecord) (name : String) : Value :=
  (Value.lookup? name r.fields).getD .null

/-- The text of a field; a field that holds no text is empty. -/
def textOf (r : LogRecord) (name : String) : String :=
  ((r.field name).text?).getD ""

/-- Puts a field on a record. -/
def put (r : LogRecord) (name : String) (value : Value) : LogRecord :=
  { r with fields := Value.put name value r.fields }

/-- What stands for the number of a request where there is none. -/
def noRequest : String := "-"

/-- Leaves the number of the current request on a record. -/
def tagged (r : LogRecord) (request : Option String) : LogRecord :=
  let shown := (request.filter fun id => !id.isEmpty).getD noRequest
  r.put "request_id" (.text shown)

/-- What the message of a record is filled with; none where it stands as it is. -/
def filling? (r : LogRecord) : Option Filling :=
  let arguments := r.field "args"
  if isVoid arguments then none
  else
    match arguments with
    | .list values => some (.values values)
    | .map entries => some (.named entries)
    | value => some (.single value)

/-- The message of a record. -/
def message (r : LogRecord) (room : Nat := Value.usualRoom) : Except TemplateError String := do
  let text ← asText room Value.display (r.field "msg")
  match r.filling? with
  | none => return text
  | some filling => fill text filling room

/-- The seconds from the beginning of 1970 to the making of a record. -/
def seconds (r : LogRecord) : Binary64 :=
  match r.field "created" with
  | .float x => x
  | .int n => Binary64.ofInt n
  | _ => Binary64.zeroOf false

/-- The fields that were put on a record beside its own. -/
def extras (r : LogRecord) : List (String × Value) :=
  r.fields.filter fun (name, _) => isExtra name

end LogRecord

end RideQuestions.Logging
