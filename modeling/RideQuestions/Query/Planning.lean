import RideQuestions.Query.Reading

/-! Choosing the clauses of a query. A projection is chosen by the intent, every predicate that
applies is kept, and dimensions are joined to the fact table when something needs them.
-/

namespace RideQuestions.Query

namespace Conventions

def factStart (c : Conventions) : ColumnRef := ⟨c.factTable, c.factStartColumn⟩
def factEnd (c : Conventions) : ColumnRef := ⟨c.factTable, c.factEndColumn⟩
def factStation (c : Conventions) : ColumnRef := ⟨c.factTable, c.factStationKey⟩
def factGender (c : Conventions) : ColumnRef := ⟨c.factTable, c.factGenderColumn⟩
def stationId (c : Conventions) : ColumnRef := ⟨c.stationTable, c.stationKey⟩
def stationName (c : Conventions) : ColumnRef := ⟨c.stationTable, c.stationNameColumn⟩
def weatherDay (c : Conventions) : ColumnRef := ⟨c.weatherTable, c.weatherDateColumn⟩
def precipitation (c : Conventions) : ColumnRef := ⟨c.weatherTable, c.precipitationColumn⟩

end Conventions

namespace Reading

/-- The column that a match names. -/
def refOf (m : ColumnMatch) : ColumnRef :=
  ⟨m.table, m.column⟩

/-- The column that a station candidate is counted by: the station's name instead of a key. -/
def countingColumn (r : Reading) (candidate : ColumnMatch) : ColumnRef :=
  if isStationIdentifier candidate.column then r.conventions.stationName else refOf candidate

def projection (r : Reading) : Projection :=
  match r.intent with
  | .tally => .count
  | .average =>
      if (findTimeColumn r.candidates).isSome || r.mentionsDuration then
        .averageMinutes r.conventions.factStart r.conventions.factEnd
      else .everything
  | .total =>
      match findNumericColumn r.candidates distanceKeywords with
      | some m => .sum (refOf m)
      | none => .everything
  | .maximum =>
      match r.stationCandidate with
      | some m => .countPer (r.countingColumn m)
      | none => .everything
  | .enumerate =>
      match r.stationCandidate with
      | some m => .values (refOf m)
      | none => .everything
  | .minimum => .everything
  | .filter => .everything

def predicates (r : Reading) : List Predicate :=
  (r.span.map (.startedWithin r.conventions.factStart)).toList
    ++ (r.gender?.map (.riderGender r.conventions.factGender)).toList
    ++ (if r.needsWeather then [.someRain r.conventions.precipitation] else [])
    ++ (if r.namesLocation then
          [.atLocation r.conventions.stationName r.conventions.locationPattern]
        else [])

def groupKey (r : Reading) : Option ColumnRef :=
  if r.intent = .maximum ∨ r.intent = .tally then r.stationCandidate.map r.countingColumn
  else none

def greatestOnly (r : Reading) : Bool :=
  r.intent = .maximum && r.stationCandidate.isSome

/-- The fact table, unless every candidate lives in one other table and nothing else in the query
needs the fact table or a dimension joined to it. -/
def startTable (r : Reading) (referenced : List String) : String :=
  let fact := r.conventions.factTable
  match matchedTables r.candidates with
  | [] => fact
  | other :: rest =>
      if (other :: rest).contains fact then fact
      else if r.needsWeather || !referenced.all (· = other) then fact
      else if r.needsStation && other ≠ r.conventions.stationTable then fact
      else other

/-- The dimensions that a query over the fact table needs. -/
def joins (r : Reading) (referenced : List String) : List Join :=
  let c := r.conventions
  (if r.needsStation || referenced.contains c.stationTable then
      [.station c.factStation c.stationId]
    else [])
    ++ (if r.needsWeather || referenced.contains c.weatherTable then
          [.weather c.factStart c.weatherDay]
        else [])

/-- Where the rows come from, given the tables that the other clauses refer to. -/
def source (r : Reading) (referenced : List String) : Source :=
  let start := r.startTable referenced
  ⟨start, if start = r.conventions.factTable then r.joins referenced else []⟩

/-- The tables that the projection, the predicates and the grouping refer to. -/
def referenced (r : Reading) : List String :=
  r.projection.tables ++ r.predicates.map (·.column.table) ++ (r.groupKey.map (·.table)).toList

def plan (r : Reading) : Plan :=
  {
    projection := r.projection,
    source := r.source r.referenced,
    predicates := r.predicates,
    groupKey := r.groupKey,
    greatestOnly := r.greatestOnly
  }

/-- The clauses of a query one by one, each a fragment or the reason why it is none. -/
structure Clauses where
  selection : Except Unbalanced Fragment
  filter : Except Unbalanced Fragment
  grouping : Except Unbalanced Fragment
  ordering : Except Unbalanced Fragment
  source : Except Unbalanced Fragment
  startTable : String

private def tablesOf (fragment : Except Unbalanced Fragment) : List String :=
  match fragment with
  | .ok f => f.tables
  | .error _ => []

/-- The clauses of a reading. Unless the referenced tables are given, they are those of the
clauses that could be written. -/
def clauses (r : Reading) (referenced? : Option (List String)) : Clauses :=
  let selection := r.projection.fragment
  let filter := filterFragment r.predicates
  let grouping := groupFragment r.groupKey
  let ordering := orderFragment r.greatestOnly
  let referenced :=
    referenced?.getD ([selection, filter, grouping, ordering].flatMap tablesOf)
  {
    selection, filter, grouping, ordering,
    source := (r.source referenced).fragment,
    startTable := r.startTable referenced
  }

end Reading

end RideQuestions.Query
