import RideQuestions.Calendar.Span
import RideQuestions.Query.Fragment

/-! The clauses of a ride query as data, and the text that each of them is written as.
-/

namespace RideQuestions.Query

open RideQuestions.Calendar

/-- A column named together with its table. -/
structure ColumnRef where
  table : String
  column : String
  deriving DecidableEq

def ColumnRef.text (c : ColumnRef) : String :=
  c.table ++ "." ++ c.column

/-- What a query returns. -/
inductive Projection where
  | everything
  | count
  | averageMinutes (start finish : ColumnRef)
  | sum (column : ColumnRef)
  | countPer (column : ColumnRef)
  | values (column : ColumnRef)

namespace Projection

def text : Projection → String
  | everything => "SELECT *"
  | count => "SELECT COUNT(*) AS count"
  | averageMinutes start finish =>
      "SELECT ROUND(AVG(EXTRACT(EPOCH FROM (" ++ finish.text ++ " - " ++ start.text
        ++ ")) / 60)) AS average"
  | sum column => "SELECT ROUND(CAST(SUM(" ++ column.text ++ ") AS numeric), 1) AS total"
  | countPer column => "SELECT " ++ column.text ++ ", COUNT(*) AS count"
  | values column => "SELECT " ++ column.text

def tables : Projection → List String
  | everything => []
  | count => []
  | averageMinutes start _ => [start.table]
  | sum column => [column.table]
  | countPer column => [column.table]
  | values column => [column.table]

end Projection

inductive Gender where
  | female
  | male
  deriving DecidableEq

def Gender.text : Gender → String
  | female => "female"
  | male => "male"

/-- A condition on the rides of a query. -/
inductive Predicate where
  | startedWithin (start : ColumnRef) (span : Span)
  | riderGender (column : ColumnRef) (gender : Gender)
  | someRain (precipitation : ColumnRef)
  | atLocation (name : ColumnRef) (pattern : String)

namespace Predicate

def text : Predicate → String
  | startedWithin start _ =>
      start.text ++ " >= CAST(? AS timestamp) AND " ++ start.text ++ " <= CAST(? AS timestamp)"
  | riderGender column _ => column.text ++ " = ?"
  | someRain precipitation => precipitation.text ++ " > ?"
  | atLocation name _ => name.text ++ " ILIKE ?"

/-- The bound values, in the order of the markers. -/
def parameters : Predicate → List Value
  | startedWithin _ span => [.text span.first.literal, .text span.last.literal]
  | riderGender _ gender => [.text gender.text]
  | someRain _ => [.int 0]
  | atLocation _ pattern => [.text pattern]

def column : Predicate → ColumnRef
  | startedWithin start _ => start
  | riderGender column _ => column
  | someRain precipitation => precipitation
  | atLocation name _ => name

def fragment (p : Predicate) : Except Unbalanced Fragment :=
  Fragment.of p.text p.parameters [p.column.table]

end Predicate

/-- A dimension hung onto the fact table. -/
inductive Join where
  | station (foreignKey key : ColumnRef)
  | weather (moment day : ColumnRef)

namespace Join

/-- The table that a join brings in. -/
def table : Join → String
  | station _ key => key.table
  | weather _ day => day.table

def text : Join → String
  | station foreignKey key =>
      "LEFT JOIN " ++ key.table ++ " ON " ++ foreignKey.text ++ " = " ++ key.text
  | weather moment day =>
      "LEFT JOIN " ++ day.table ++ " ON DATE(" ++ moment.text ++ ") = " ++ day.text

end Join

/-- Where a query takes its rows from. -/
structure Source where
  start : String
  joins : List Join

def Source.text (s : Source) : String :=
  String.intercalate " " (("FROM " ++ s.start) :: s.joins.map Join.text)

/-- A query in its clauses. -/
structure Plan where
  projection : Projection
  source : Source
  predicates : List Predicate
  groupKey : Option ColumnRef
  /-- Whether only the greatest count is returned. -/
  greatestOnly : Bool

namespace Projection

def fragment (p : Projection) : Except Unbalanced Fragment :=
  Fragment.of p.text [] p.tables

end Projection

/-- The condition clause: every predicate contributes, in order. -/
def filterFragment (predicates : List Predicate) : Except Unbalanced Fragment := do
  let parts ← predicates.mapM Predicate.fragment
  if parts.isEmpty then return .empty
  else
    Fragment.of
      ("WHERE " ++ String.intercalate " AND " (parts.map Fragment.text))
      (parts.flatMap Fragment.parameters)
      (parts.flatMap Fragment.tables)

def groupFragment : Option ColumnRef → Except Unbalanced Fragment
  | none => .ok .empty
  | some key => Fragment.of ("GROUP BY " ++ key.text) [] [key.table]

def orderFragment (greatestOnly : Bool) : Except Unbalanced Fragment :=
  if greatestOnly then Fragment.of "ORDER BY count DESC LIMIT 1" [] [] else .ok .empty

def Source.fragment (s : Source) : Except Unbalanced Fragment :=
  Fragment.of s.text [] [s.start]

end RideQuestions.Query
