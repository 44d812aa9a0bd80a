import RideQuestions.CommandLine.Arguments

/-! The two commands: one serves questions, the other compiles a single one.
-/

namespace RideQuestions.CommandLine

structure ServeRequest where
  host : Option String
  port : Option Int

structure CompileRequest where
  question : String
  schemaFile : Option String
  referenceYear : Option Int

inductive Invocation where
  | help
  | serve (request : ServeRequest)
  | compile (request : CompileRequest)

namespace Invocation

def serveSwitches : List Switch :=
  helpSwitches ++ [⟨"--host", .text⟩, ⟨"--port", .number⟩]

def compileSwitches : List Switch :=
  helpSwitches ++ [⟨"--schema-file", .text⟩, ⟨"--reference-year", .number⟩]

def readCommand (switches : List Switch) (wantsWord : Bool) (words : List String)
    : Except Ending Given := do
  let words ← (classifyAll switches words).mapError .usage
  readWords wantsWord false words {}

def invocationOf (command : String) (words : List String)
    : Except Ending (Invocation × List String) :=
  if command = "serve" then do
    let given ← readCommand serveSwitches false words
    let request := { host := given.text? "--host", port := given.number? "--port" }
    return (.serve request, given.surplus)
  else if command = "compile" then do
    let given ← readCommand compileSwitches true words
    match given.word with
    | none => .error (.usage (.noWord "question"))
    | some question =>
        let request :=
          {
            question,
            schemaFile := given.text? "--schema-file",
            referenceYear := given.number? "--reference-year"
          }
        return (.compile request, given.surplus)
  else .error (.usage (.unknownCommand command))

/-- Reads up to the command and on from there; `surplus` are the words passed over before it. -/
def readFrom (surplus : List String) : List String → Except Ending Invocation
  | [] => .error (.usage .noCommand)
  | "--" :: _ => .error (.usage (.unknownCommand "--"))
  | text :: rest => do
      match ← (classify helpSwitches text).mapError .usage with
      | .switch _ none => .error .help
      | .switch s (some _) => .error (.usage (.surplusValue s.name))
      | .unknown text => readFrom (surplus ++ [text]) rest
      | _ =>
          let (invocation, more) ← invocationOf text rest
          let surplus := surplus ++ more
          if surplus.isEmpty then return invocation
          else .error (.usage (.unrecognized surplus))

/-- Reads a command line. -/
def ofWords (words : List String) : Except UsageError Invocation :=
  match readFrom [] words with
  | .ok invocation => .ok invocation
  | .error .help => .ok .help
  | .error (.usage error) => .error error

end Invocation

end RideQuestions.CommandLine
