import RideQuestions.Text.Case
import RideQuestions.Text.Search

/-! What a question asks for. Rules are tried from top to bottom and the first keyword found in
the lower-case question decides, so words of distance come before words of counting.
-/

namespace RideQuestions

inductive Intent where
  | tally
  | average
  | total
  | maximum
  | minimum
  | enumerate
  | filter
  deriving DecidableEq, Inhabited

namespace Intent

def name : Intent → String
  | tally => "tally"
  | average => "average"
  | total => "total"
  | maximum => "maximum"
  | minimum => "minimum"
  | enumerate => "enumerate"
  | filter => "filter"

def all : List Intent :=
  [tally, average, total, maximum, minimum, enumerate, filter]

def ofName? (text : String) : Option Intent :=
  all.find? (·.name = text)

/-- Keywords that ask for one intent. -/
structure Rule where
  keywords : List String
  intent : Intent

def rules : List Rule :=
  [
    ⟨["distance", "kilometres", "km", "miles"], total⟩,
    ⟨["average", "avg"], average⟩,
    ⟨["sum", "total"], total⟩,
    ⟨["maximum", "max", "most"], maximum⟩,
    ⟨["minimum", "min", "least"], minimum⟩,
    ⟨["count", "how many"], tally⟩,
    ⟨["which", "what", "list"], enumerate⟩
  ]

/-- The first rule with a keyword inside the lower-case question. -/
def rule? (question : String) : Option Rule :=
  let lowered := Text.lower question
  rules.find? fun rule => rule.keywords.any (Text.holds lowered)

/-- The intent of a question; a question without keywords filters rides. -/
def ofQuestion (question : String) : Intent :=
  ((rule? question).map Rule.intent).getD filter

end Intent

end RideQuestions
