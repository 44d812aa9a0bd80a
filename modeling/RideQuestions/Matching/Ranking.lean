import RideQuestions.Matching.Score
import RideQuestions.Schema.Basic

/-! Columns ranked against the tokens of a question. Better scores come first; equal ones keep
the order of tables, columns and tokens.
-/

namespace RideQuestions

open Number

/-- A column that a token may mean. -/
structure ColumnMatch where
  table : String
  column : String
  declaredType : String
  score : Binary64
  token : String := ""

namespace ColumnMatch

def isNumeric (m : ColumnMatch) : Bool :=
  Schema.isNumericType m.declaredType

def isTemporal (m : ColumnMatch) : Bool :=
  Schema.isTemporalType m.declaredType

end ColumnMatch

namespace Matching

/-- Every pair of a column and a token that reaches the least score, in schema order. -/
def candidates (schema : Schema) (minScore : Binary64) (tokens : List String)
    : List ColumnMatch :=
  schema.tables.flatMap fun table =>
    table.columns.flatMap fun column =>
      tokens.filterMap fun token =>
        let score := scoreColumn token column.name table.name
        if minScore.le score then
          some ⟨table.name, column.name, column.declaredType, score, token⟩
        else none

/-- Whether one match may stand before another. -/
def ranksBefore (a b : ColumnMatch) : Bool :=
  b.score.orderKey ≤ a.score.orderKey

/-- The candidates, best first. -/
def rank (schema : Schema) (minScore : Binary64) (tokens : List String) : List ColumnMatch :=
  (candidates schema minScore tokens).mergeSort ranksBefore

end Matching

end RideQuestions
