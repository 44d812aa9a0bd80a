import RideQuestions.Calendar.Pattern
import RideQuestions.Config.Forms
import RideQuestions.Json.Writer
import RideQuestions.Logging.LogRecord

/-! Layouts of log records: lines of text that fill a template, or JSON objects.
-/

namespace RideQuestions.Logging

open Calendar Config Number

inductive Layout where
  | text (template datePattern : String)
  | json

/-- Why a record has no line. -/
inductive LayoutError where
  /-- The template has no slot for any field. -/
  | noField (template : String)
  | missingField (name : String)
  | filling (error : TemplateError)
  | date (error : CalendarError)
  /-- The object cannot be written. -/
  | unwritten (error : NumberError)

def LayoutError.message : LayoutError → String
  | noField template => "Invalid format '" ++ template ++ "' for '%' style"
  | missingField name => "Formatting field not found in record: " ++ Text.quoted name
  | filling error => error.message
  | date error => error.message
  | unwritten error => error.message

namespace LogRecord

section

variable (r : LogRecord) (zone : Zone := .utc) (room : Nat := Value.usualRoom)

/-- The instant at which a record was made. -/
def instant : Except LayoutError Instant :=
  (zone.lookUp (Instant.microsOfSeconds r.seconds)).mapError .date

/-- What a record itself says, by the names of the JSON object. -/
def ownEntries : Except LayoutError (List (String × Value)) := do
  let made ← r.instant zone
  let message ← (r.message room).mapError .filling
  let entries :=
    [
      ("timestamp", .text made.iso), ("level", r.field "levelname"), ("logger", r.field "name"),
      ("message", .text message), ("module", r.field "module"),
      ("function", r.field "funcName"), ("line", r.field "lineno")
    ]
  return entries ++ (r.report.map fun report => ("exception", Value.text report)).toList

/-- The JSON object of a record: what it says itself, and every extra field, which takes the place
of an entry of the same name. -/
def entries : Except LayoutError (List (String × Value)) := do
  let own ← r.ownEntries zone room
  return r.extras.foldl (fun entries (name, value) => Value.put name value entries) own

/-- The pattern of dates that milliseconds are added to. -/
def defaultDatePattern : String := "%Y-%m-%d %H:%M:%S"

/-- The time at which a record was made, to the second; without a pattern with milliseconds. -/
def time (datePattern : String) : Except LayoutError String := do
  let (num, den) := r.seconds.fraction
  let seconds := (signed r.seconds.negative num).fdiv den
  let second ← (zone.instant (seconds * 1000000)).mapError .date
  let text := fun pattern => second.format pattern (zone.offset seconds)
  if datePattern.isEmpty then
    (fill "%s,%03d" (.values [.text (text defaultDatePattern), r.field "msecs"]) room).mapError
      .filling
  else return text datePattern

/-- Puts a text below a line. -/
def below (line text : String) : String :=
  if text.isEmpty then line
  else if line.toList.getLast? = some '\n' then line ++ text
  else line ++ "\n" ++ text

/-- The line of a record by a template. What went wrong and where stand below it. -/
def line (template datePattern : String) : Except LayoutError String := do
  let r := r.put "message" (.text (← (r.message room).mapError .filling))
  let r ←
    if Text.holds template "%(asctime)" then do
      pure (r.put "asctime" (.text (← r.time zone room datePattern)))
    else pure r
  let line ← (fill template (.named r.fields) room).mapError fun
    | .noValue name => LayoutError.missingField name
    | error => .filling error
  let trouble := r.textOf "exc_text"
  let trouble := if trouble.isEmpty then r.report.getD "" else trouble
  return below (below line trouble) (r.textOf "stack_info")

end

end LogRecord

namespace Layout

/-- The layout of a configuration. An empty template is that of the bare message. -/
def ofConfig (c : LoggingConfig) : Except LayoutError Layout :=
  let template := if c.format.isEmpty then "%(message)s" else c.format
  if c.json then .ok .json
  else if hasField template.toList then .ok (.text template c.dateFormat)
  else .error (.noField template)

/-- A record as one entry of the log. -/
def write (layout : Layout) (r : LogRecord) (zone : Zone := .utc)
    (room : Nat := Value.usualRoom) : Except LayoutError String :=
  match layout with
  | text template datePattern => r.line zone room template datePattern
  | json => do
      let entries ← r.entries zone room
      (Value.written Json.write (.map entries) room).mapError .unwritten

end Layout

end RideQuestions.Logging
