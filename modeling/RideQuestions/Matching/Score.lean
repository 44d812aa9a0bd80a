import RideQuestions.Matching.Similarity
import RideQuestions.Matching.Synonym
import RideQuestions.Text.Case
import RideQuestions.Text.Search

/-! How well a token of a question fits a column: the strongest of containment, a synonym and
likeness, with a bonus when the token also fits the table.
-/

namespace RideQuestions.Matching

open Number

/-- What speaks for a column, before it is weighed. -/
structure Evidence where
  /-- Token and column contain one another. -/
  contained : Bool
  /-- A synonym of the token and the column contain one another. -/
  synonym : Bool
  /-- The likeness of token and column. -/
  likeness : Ratio
  /-- Token and table contain one another. -/
  tableContained : Bool

/-- The evidence that a token gives for a column; column and table are compared in lower case. -/
def evidence (token column table : String) : Evidence :=
  let column := Text.lower column
  {
    contained := Text.overlap token column,
    synonym := (synonyms token).any (Text.overlap · column),
    likeness := likeness token.toList column.toList,
    tableContained := Text.overlap token (Text.lower table)
  }

def containmentScore : Binary64 := Binary64.ofRatio false 9 10
def synonymScore : Binary64 := Binary64.ofRatio false 8 10
def tableBonus : Binary64 := Binary64.ofRatio false 1 10
def defaultMinScore : Binary64 := Binary64.ofRatio false 3 10

/-- The greater of two numbers. -/
def greater (x y : Binary64) : Binary64 :=
  if x.orderKey < y.orderKey then y else x

/-- Weighs evidence. -/
def Evidence.score (e : Evidence) : Binary64 :=
  let stated :=
    if e.contained then containmentScore
    else if e.synonym then synonymScore
    else Binary64.zeroOf false
  let base := greater stated (Binary64.ofRatio false e.likeness.num e.likeness.den)
  if e.tableContained then base.add tableBonus else base

/-- The score of a token against a column of a table. -/
def scoreColumn (token column table : String) : Binary64 :=
  (evidence token column table).score

end RideQuestions.Matching
