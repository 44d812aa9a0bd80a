import RideQuestions.Matching.Ranking
import RideQuestions.Query.Clause
import RideQuestions.Query.Conventions
import RideQuestions.Question.Intent
import RideQuestions.Question.Wording

/-! What is understood of a question, and the columns chosen for it. Keywords are looked for in
order of priority, and under one keyword the best ranked column wins.
-/

namespace RideQuestions.Query

open RideQuestions.Calendar

def stationKeywords : List String := ["station", "point", "dock", "name", "avenue"]
def timeKeywords : List String := ["time", "duration", "minutes", "hours"]
def distanceKeywords : List String := ["distance", "kilometres", "km", "miles"]

/-- Words that speak of how long a ride takes. -/
def durationTerms : List String :=
  timeKeywords ++ timeKeywords.flatMap Matching.synonyms

def stationNeedTerms : List String := ["station", "docking", "avenue", "congress"]
def weatherNeedTerms : List String := ["rain"]
def locationTerms : List String := ["congress avenue", "congress", "avenue"]
def femaleWords : List String := ["women", "woman", "female", "females"]
def maleWords : List String := ["men", "man", "male", "males"]

/-- Whether a column or its table has a keyword in its lower-case name. -/
def mentions (keyword : String) (m : ColumnMatch) : Bool :=
  Text.holds (Text.lower m.column) keyword || Text.holds (Text.lower m.table) keyword

/-- The first accepted match by priority of the keyword and then by rank. -/
def findColumn (candidates : List ColumnMatch) (keywords : List String)
    (accept : ColumnMatch → Bool) : Option ColumnMatch :=
  keywords.findSome? fun keyword =>
    candidates.find? fun m => mentions keyword m && accept m

def findNumericColumn (candidates : List ColumnMatch) (keywords : List String)
    : Option ColumnMatch :=
  findColumn candidates keywords ColumnMatch.isNumeric

/-- A column named for a duration, or failing that the best ranked one of a temporal type. -/
def findTimeColumn (candidates : List ColumnMatch) : Option ColumnMatch :=
  (findColumn candidates timeKeywords fun _ => true).orElse fun _ =>
    candidates.find? ColumnMatch.isTemporal

/-- Whether a column name speaks of a station or an identifier. -/
def isStationIdentifier (column : String) : Bool :=
  let lowered := Text.lower column
  Text.holds lowered "station" || Text.holds lowered "id"

/-- The tables of some matches, each once, best ranked first. -/
def matchedTables (candidates : List ColumnMatch) : List String :=
  (candidates.map ColumnMatch.table).eraseDups

/-- Everything that decides about the clauses of a query. -/
structure Reading where
  question : String
  intent : Intent
  tokens : List String
  candidates : List ColumnMatch
  span : Option Span
  conventions : Conventions

namespace Reading

def lowered (r : Reading) : String :=
  Text.lower r.question

def stationCandidate (r : Reading) : Option ColumnMatch :=
  findColumn r.candidates stationKeywords fun _ => true

def needsStation (r : Reading) : Bool :=
  stationNeedTerms.any (Text.holds r.lowered)

def needsWeather (r : Reading) : Bool :=
  weatherNeedTerms.any (Text.holds r.lowered)

def namesLocation (r : Reading) : Bool :=
  locationTerms.any (Text.holds r.lowered)

def mentionsDuration (r : Reading) : Bool :=
  r.tokens.any durationTerms.contains

/-- The gender that a question's words name; women are looked for first. -/
def gender? (r : Reading) : Option Gender :=
  let words := Question.wordsOf r.question
  if words.any femaleWords.contains then some .female
  else if words.any maleWords.contains then some .male
  else none

/-- The matches whose type decides about the projection, up to the one that settles it. -/
def consultedTypes (r : Reading) : List ColumnMatch :=
  let upTo := fun (settles : ColumnMatch → Bool) (candidates : List ColumnMatch) =>
    candidates.takeWhile (fun m => !settles m) ++ (candidates.find? settles).toList
  match r.intent with
  | .total =>
      upTo ColumnMatch.isNumeric
        (distanceKeywords.flatMap fun keyword => r.candidates.filter (mentions keyword))
  | .average =>
      if (findColumn r.candidates timeKeywords fun _ => true).isSome then []
      else upTo ColumnMatch.isTemporal r.candidates
  | _ => []

end Reading

end RideQuestions.Query
