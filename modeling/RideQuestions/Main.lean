import RideQuestions.CommandLine.Command
import RideQuestions.Server.Endpoint
import Std.Time.DateTime.Timestamp

/-! The program: it reads its surroundings, runs a command and writes what comes of it. No driver
of a store is built in, so a schema has to come from a file. A server answers the bodies of requests
that it is given line by line.
-/

namespace RideQuestions

open Calendar Config CommandLine

/-- A store that cannot be reached. -/
def unreachable : Database Unit :=
  {
    openPool := fun _ w => w,
    run := fun _ w => (.error (.store "no driver for the store is built in" none), w),
    closePool := fun w => w
  }

/-- The text of a file. -/
def textOfFile (path : String) : IO (Except FileError String) := do
  try
    match String.fromUTF8? (← IO.FS.readBinFile path) with
    | some text => return .ok text
    | none => return .error .unreadable
  catch
    | .noFileOrDirectory _ _ _ => return .error .missing
    | .inappropriateType _ _ _ => return .error .directory
    | _ => return .error .unreadable

/-- The variables of the process, as the system lists them. -/
def processVariables : IO Variables := do
  match ← textOfFile "/proc/self/environ" with
  | .error _ => return []
  | .ok listing =>
      return (Text.splitOn "\x00" listing).filterMap fun entry =>
        let name := entry.toList.takeWhile (· != '=')
        let value := (entry.toList.dropWhile (· != '=')).drop 1
        if name.isEmpty then none else some (String.ofList name, String.ofList value)

/-- The instant at which it is asked for. -/
def currentInstant : IO (Except CalendarError Instant) := do
  let nanos := (← Std.Time.Timestamp.now).toNanosecondsSinceUnixEpoch.val
  return Instant.ofEpoch (nanos / 1000)

/-- The surroundings of an invocation, with the file that it names read already. -/
def surroundings (invocation : Invocation) (now : Instant) : IO (Surroundings Unit) := do
  let file ← textOfFile ".env"
  let sources : Sources := { vars := ← processVariables, file := file.toOption }
  let named ←
    match invocation with
    | .compile request => textOfFile (request.file?.getD "")
    | _ => pure (.error .missing)
  return { sources, fileText := fun _ => named, database := unreachable, now }

def usage : String :=
  "usage: serve [--host HOST] [--port PORT]\n"
    ++ "       compile QUESTION [--schema-file FILE] [--reference-year YEAR]"

/-- A response as JSON. -/
def responseText (response : Response) : String :=
  Json.write
    (.map
      [
        ("query", .text response.query), ("result", response.result),
        ("error", (response.error.map .text).getD .null)
      ])

/-- Answers one body a line until the input ends. -/
partial def answerLines (s : Surroundings Unit) (service : Service) (server : Server Unit)
    (input output : IO.FS.Stream) : IO Unit := do
  let line ← input.getLine
  if line.isEmpty then return
  let c := Store.collaborators s.database server.schemaName
  let (reply, server) := server.acting service server.servicePool fun scene =>
    Endpoint.query c line.toUTF8.toList s.now scene
  match reply with
  | .ok reply => output.putStrLn (responseText reply.response)
  | .error error => output.putStrLn error.message
  output.flush
  answerLines s (server.service.getD service) server input output

/-- Starts a server and answers until the input ends. -/
def serve (s : Surroundings Unit) : IO UInt32 := do
  match (Settings.load s.sources {}).1 with
  | .error error =>
      IO.eprintln (CommandError.settings error).message
      return 1
  | .ok settings =>
      let server : Server Unit := { settings, world := () }
      match server.startup s.database with
      | (.error fault, _) =>
          IO.eprintln fault.text
          return 1
      | (.ok (), server) =>
          match server.service with
          | none => return 1
          | some service =>
              answerLines s service server (← IO.getStdin) (← IO.getStdout)
              return 0

/-- Writes the outcome of a command and gives the status to end with. -/
def conclude (s : Surroundings Unit) (outcome : Outcome) : IO UInt32 := do
  match outcome with
  | .help => IO.println usage
  | .printed text => IO.print text
  | .refused message => IO.eprintln message
  | .serving _ _ => return ← serve s
  return UInt32.ofNat outcome.exitStatus

/-- Runs the command of a command line. -/
def runCommand (words : List String) : IO UInt32 := do
  match Invocation.ofWords words, ← currentInstant with
  | .error error, _ =>
      IO.eprintln (usage ++ "\n" ++ error.message)
      return UInt32.ofNat usageStatus
  | _, .error error =>
      IO.eprintln error.message
      return 1
  | .ok invocation, .ok now =>
      let s ← surroundings invocation now
      match (CommandLine.run s invocation ()).1 with
      | .error error =>
          IO.eprintln error.message
          return 1
      | .ok outcome => conclude s outcome

end RideQuestions

def main (words : List String) : IO UInt32 :=
  RideQuestions.runCommand words
