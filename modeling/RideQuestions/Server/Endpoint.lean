import RideQuestions.Json.Encoding
import RideQuestions.Server.Server

/-! The endpoints of the server. A question comes as a JSON object in the body of a request; what
is no such object, or holds no question, is refused before the service sees it. What lies too deep
inside one another is neither read nor sent.
-/

namespace RideQuestions.Endpoint

open Calendar

/-- How deep lists and maps may lie inside one another. It depends on the calls that are under way
when a body is read, and when an answer is sent. -/
structure Room where
  body : Nat := Value.usualRoom
  answer : Nat := Value.usualRoom

/-- What the body of a request asks. -/
inductive Body where
  /-- No object with a text as its question. -/
  | noQuestion
  | question (text : String)
  /-- There is no room to read it. -/
  | tooNested
  deriving DecidableEq

/-- Reads a body. -/
def Body.ofBytes (room : Nat) (bytes : List UInt8) : Body :=
  match Json.readBytes room bytes with
  | .error .tooNested => tooNested
  | .ok (.map entries) =>
      match Value.lookup? "question" entries with
      | some (.text text) => question text
      | _ => noQuestion
  | _ => noQuestion

def noQuestionMessage : String :=
  "Question is required and must be a string"

/-- An answer with the status that tells success from failure. -/
structure Reply where
  status : Nat
  response : Response

/-- The status of an answer: a failure that says something is an error of the server. -/
def statusOf (response : Response) : Nat :=
  match response.error with
  | none => 200
  | some message => if message.isEmpty then 200 else 500

mutual

/-- A value as it is sent: numbers that JSON has no form for become null, and decimals texts. -/
def sent : Value → Value
  | .float x => if x.isFinite then .float x else .null
  | .decimal d => .text d.toText
  | .list items => .list (sentItems items)
  | .map entries => .map (sentEntries entries)
  | value => value

def sentItems : List Value → List Value
  | [] => []
  | item :: rest => sent item :: sentItems rest

def sentEntries : List (String × Value) → List (String × Value)
  | [] => []
  | (key, value) :: rest => (key, sent value) :: sentEntries rest

end

/-- The reply that an answer is sent as, unless it lies too deep or has a number that cannot be
written. -/
def replyTo (room : Nat) (response : Response) : Except NumberError Reply :=
  match response.result.flaw? room with
  | some flaw => .error flaw
  | none => .ok ⟨statusOf response, { response with result := sent response.result }⟩

/-- Answers the body of a request. -/
def query {W : Type} (c : Collaborators W) (bytes : List UInt8) (now : Instant) (s : Scene W)
    (room : Room := {}) : Except NumberError Reply × Scene W :=
  match Body.ofBytes room.body bytes with
  | .tooNested => (.error .tooNested, s)
  | .noQuestion => (.ok ⟨400, .failure noQuestionMessage⟩, s)
  | .question text =>
      if Text.isBlankText text then
        (.ok ⟨400, .failure ServiceErrorKind.emptyInput.defaultMessage⟩, s)
      else
        let (result, s) := s.answer c (some text) now
        (result.bind (replyTo room.answer), s)

/-- The number that a request is known by: the one it came with, unless that is empty. -/
def requestId (given : Option String) (fresh : String) : String :=
  match given with
  | none => fresh
  | some id => if id.isEmpty then fresh else id

end RideQuestions.Endpoint
