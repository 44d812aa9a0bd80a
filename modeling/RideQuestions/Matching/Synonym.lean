/-! Words that stand for one another. A word is related to every other word of each group that it
belongs to; groups do not combine further.
-/

namespace RideQuestions.Matching

/-- The other words of the groups that hold a word, each once, by first appearance. -/
def related (groups : List (List String)) (word : String) : List String :=
  (((groups.filter (·.contains word)).flatten).filter (· != word)).eraseDups

/-- Every word of some groups with the words related to it. -/
def synonymTable (groups : List (List String)) : List (String × List String) :=
  groups.flatten.eraseDups.map fun word => (word, related groups word)

/-- The words of the ride domain that mean nearly the same. -/
def synonymGroups : List (List String) :=
  [
    ["time", "duration", "minutes", "hours", "ride_time"],
    ["station", "docking", "point", "stop", "hub", "avenue"],
    ["departure", "start", "beginning", "leave", "depart"],
    ["kilometres", "km", "distance", "miles", "length"],
    ["women", "female", "woman", "girl"],
    ["rainy", "rain", "wet", "stormy", "precipitation"],
    ["congress", "avenue", "street", "road"]
  ]

/-- The synonyms of a word, if it belongs to a group. -/
def synonyms? (word : String) : Option (List String) :=
  (synonymTable synonymGroups).lookup word

/-- The synonyms of a word; none when it belongs to no group. -/
def synonyms (word : String) : List String :=
  (synonyms? word).getD []

end RideQuestions.Matching
