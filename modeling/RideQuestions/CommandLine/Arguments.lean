import RideQuestions.Text.Digits
import RideQuestions.Text.Quoted
import RideQuestions.Text.Search

/-! The words of a command line. A command has switches, whose names may be cut short as long as
they stay unambiguous, and at most one word of its own. Behind the word `--` nothing is a switch.
-/

namespace RideQuestions.CommandLine

/-- What a switch takes. -/
inductive SwitchKind where
  | text
  | number
  /-- Nothing: it asks for help. -/
  | help
  deriving DecidableEq

structure Switch where
  name : String
  kind : SwitchKind

/-- The switches that every command has. -/
def helpSwitches : List Switch :=
  [⟨"-h", .help⟩, ⟨"--help", .help⟩]

/-- Why a command line is not understood. -/
inductive UsageError where
  | noCommand
  | unknownCommand (word : String)
  | ambiguous (word : String)
  | noValue (switch : String)
  | surplusValue (switch : String)
  | notANumber (switch word : String)
  | noWord (name : String)
  | unrecognized (words : List String)

def UsageError.message : UsageError → String
  | noCommand => "a command is required"
  | unknownCommand word => "there is no command " ++ Text.quoted word
  | ambiguous word => "ambiguous option: " ++ word
  | noValue switch => "option " ++ switch ++ " needs a value"
  | surplusValue switch => "option " ++ switch ++ " takes no value"
  | notANumber switch word =>
      "option " ++ switch ++ " needs a whole number, not " ++ Text.quoted word
  | noWord name => "the " ++ name ++ " is missing"
  | unrecognized words => "unrecognized arguments: " ++ String.intercalate " " words

/-- A word of a command line by its form. -/
inductive Word where
  | value (text : String)
  /-- A switch, and the value written in the same word. -/
  | switch (switch : Switch) (attached : Option String)
  /-- What looks like a switch and is none. -/
  | unknown (text : String)
  /-- The first `--`. -/
  | divider

/-- Splits a word at its first equals sign. -/
def splitValue (word : List Char) : List Char × Option String :=
  match word.dropWhile (· != '=') with
  | [] => (word, none)
  | _ :: value => (word.takeWhile (· != '='), some (String.ofList value))

/-- Whether a word is a negative number, with or without a point. -/
def isNegativeNumber : List Char → Bool
  | '-' :: rest =>
      match rest.dropWhile Text.isDigit with
      | [] => !rest.isEmpty
      | '.' :: part => !part.isEmpty && part.all Text.isDigit
      | _ => false
  | _ => false

/-- The switches that a word may stand for, with the value written in the same word. A short switch
takes no value, and letters behind it are passed over. -/
def candidates (switches : List Switch) (word : List Char) : List (Switch × Option String) :=
  match word with
  | '-' :: '-' :: _ =>
      let (name, value) := splitValue word
      (switches.filter fun s => (Text.afterPrefix? name s.name.toList).isSome).map (·, value)
  | _ =>
      switches.filterMap fun s =>
        if s.name.toList = word.take 2 || (Text.afterPrefix? word s.name.toList).isSome then
          some (s, none)
        else none

/-- The form of a word that is not the divider. -/
def classify (switches : List Switch) (text : String) : Except UsageError Word :=
  let word := text.toList
  let named := fun (name : List Char) => switches.find? (·.name.toList = name)
  match word with
  | '-' :: _ :: _ =>
      match named word, splitValue word with
      | some s, _ => .ok (.switch s none)
      | none, (name, value) =>
          match value.bind fun _ => named name, candidates switches word with
          | some s, _ => .ok (.switch s value)
          | none, [(s, value)] => .ok (.switch s value)
          | none, _ :: _ => .error (.ambiguous text)
          | none, [] =>
              if isNegativeNumber word || word.contains ' ' then .ok (.value text)
              else .ok (.unknown text)
  | _ => .ok (.value text)

/-- The forms of all words; behind the divider every word is a value. -/
def classifyAll (switches : List Switch) : List String → Except UsageError (List Word)
  | [] => .ok []
  | "--" :: rest => .ok (.divider :: rest.map .value)
  | text :: rest => do
      let word ← classify switches text
      return word :: (← classifyAll switches rest)

/-- What the words of a command give. -/
structure Given where
  /-- The values of switches, the last one first. -/
  values : List (String × String) := []
  word : Option String := none
  surplus : List String := []

/-- How reading a command ends early. -/
inductive Ending where
  | help
  | usage (error : UsageError)

/-- Takes the value of a switch. -/
def Given.take (given : Given) (switch : Switch) (value : String) : Except Ending Given :=
  if switch.kind = .number && (Text.readInt? value).isNone then
    .error (.usage (.notANumber switch.name value))
  else .ok { given with values := (switch.name, value) :: given.values }

/-- Reads words from left to right. `wantsWord` tells whether the command has a word of its own,
and `justTaken` whether that word was the last one read, which a divider may follow. -/
def readWords (wantsWord : Bool) : Bool → List Word → Given → Except Ending Given
  | _, [], given => .ok given
  | justTaken, .divider :: rest, given =>
      let belongs := justTaken || wantsWord && given.word.isNone
      readWords wantsWord false rest
        (if belongs then given else { given with surplus := given.surplus ++ ["--"] })
  | _, .value text :: rest, given =>
      if wantsWord && given.word.isNone then
        readWords wantsWord true rest { given with word := some text }
      else readWords wantsWord false rest { given with surplus := given.surplus ++ [text] }
  | _, .unknown text :: rest, given =>
      readWords wantsWord false rest { given with surplus := given.surplus ++ [text] }
  | _, .switch s (some value) :: rest, given =>
      if s.kind = .help then .error (.usage (.surplusValue s.name))
      else do readWords wantsWord false rest (← given.take s value)
  | _, .switch s none :: .value value :: rest, given =>
      if s.kind = .help then .error .help
      else do readWords wantsWord false rest (← given.take s value)
  | _, .switch s none :: _, _ =>
      .error (if s.kind = .help then .help else .usage (.noValue s.name))

/-- The value of a switch, the last one if there are several. -/
def Given.text? (given : Given) (name : String) : Option String :=
  given.values.lookup name

def Given.number? (given : Given) (name : String) : Option Int :=
  (given.text? name).bind Text.readInt?

end RideQuestions.CommandLine
