import RideQuestions.Proofs.Query.Vocabulary

/-! How projection, grouping and ordering fit together. A column that stands beside a count is the
one grouped by, only aggregates are grouped, and only what is counted by group is ordered by count.
-/

namespace RideQuestions.Query

variable {α : Type}

-----------------------------------------------------------------------------------------
-- What a clause says
-----------------------------------------------------------------------------------------

/-- The brackets that are open behind some text, with `depth` of them open before it. -/
def openBrackets (depth : Nat) (text : List Char) : Nat :=
  text.foldl (fun depth c => if c = '(' then depth + 1 else if c = ')' then depth - 1 else depth)
    depth

/-- The columns of some segments that stand outside all brackets, with `depth` of them open before
the first segment. Names may hold brackets of their own, so only words open and close any. -/
def plainColumnsFrom : Nat → List (Segment α) → List ColumnRef
  | _, [] => []
  | depth, .fixed (.words text) :: rest => plainColumnsFrom (openBrackets depth text.toList) rest
  | 0, .fixed (.column ref) :: rest => ref :: plainColumnsFrom 0 rest
  | depth, _ :: rest => plainColumnsFrom depth rest

/-- The columns of a clause that no aggregate encloses. -/
def plainColumns (clause : List (Segment α)) : List ColumnRef :=
  plainColumnsFrom 0 clause

/-- Whether a clause has some words of the query language in it. -/
def hasWords (clause : List (Segment α)) (text : String) : Bool :=
  clause.any fun
    | .fixed (.words words) => Text.holds words text
    | _ => false

/-- The calls that make one value of many rows. -/
def aggregateCalls : List String :=
  ["COUNT(", "AVG(", "SUM("]

/-- Whether a clause makes one value of many rows. -/
def aggregates (clause : List (Segment α)) : Bool :=
  aggregateCalls.any (hasWords clause)

/-- A projection fits a grouping and an ordering. A clause that is not there has no segments. -/
structure ClausesFit (projection grouping ordering : List (Segment Value)) : Prop where
  /-- Beside a count stand only columns that are grouped by. -/
  counted : hasWords projection "COUNT(*)" = true → ∀ ref ∈ plainColumns projection,
    grouping = [.words "GROUP BY ", .column ref]
  /-- What is grouped is an aggregate, with no column beside it but the key. -/
  grouped : grouping ≠ [] → aggregates projection = true
    ∧ ∃ key, grouping = [.words "GROUP BY ", .column key]
      ∧ ∀ ref ∈ plainColumns projection, ref = key
  /-- What is ordered by count has a count of that name, and is grouped. -/
  ordered : ordering ≠ [] → ordering = [.words "ORDER BY count DESC LIMIT 1"]
    ∧ hasWords projection "COUNT(*) AS count" = true ∧ grouping ≠ []
  /-- Averages and sums stand alone. -/
  alone : hasWords projection "AVG(" = true ∨ hasWords projection "SUM(" = true →
    grouping = [] ∧ ordering = []

-----------------------------------------------------------------------------------------
-- Each kind of projection
-----------------------------------------------------------------------------------------

/-- Without grouping and ordering a projection fits as long as no column stands beside a count. -/
theorem clausesFit_of_ungrouped {projection : List (Segment Value)}
    (apart : hasWords projection "COUNT(*)" = true → plainColumns projection = [])
    : ClausesFit projection [] [] where
  counted := by
    intro counts ref member
    rw [apart counts] at member
    exact absurd member List.not_mem_nil
  grouped := fun grouped => absurd rfl grouped
  ordered := fun ordered => absurd rfl ordered
  alone := fun _ => ⟨rfl, rfl⟩

/-- Unless a projection counts by a column, none stands beside a count: columns are enclosed by
their aggregate, or there is no count. -/
theorem plainColumns_eq_nil {p : Projection} (other : ∀ ref, p ≠ .countPer ref)
    (counts : hasWords p.segments "COUNT(*)" = true)
    : plainColumns p.segments = [] := by
  cases p with
  | everything | count => rfl
  | averageMinutes start finish => rfl
  | sum ref => rfl
  | countPer ref => exact absurd rfl (other ref)
  | values ref =>
      rw [Projection.segments] at counts
      exact absurd counts (by simp [hasWords]; decide)

/-- A count alone may be grouped by any column. -/
theorem clausesFit_count (key : Option ColumnRef)
    : ClausesFit Projection.count.segments (groupSegments key) [] where
  counted := by
    intro _ ref member
    exact absurd member List.not_mem_nil
  grouped := by
    intro grouped
    cases key with
    | none => exact absurd rfl grouped
    | some key =>
        refine ⟨rfl, key, rfl, ?_⟩
        intro ref member
        exact absurd member List.not_mem_nil
  ordered := fun ordered => absurd rfl ordered
  alone := by
    intro sums
    rcases sums with average | sum
    · exact absurd average (by decide)
    · exact absurd sum (by decide)

/-- A count beside a column is grouped by that column, and may be ordered. -/
theorem clausesFit_countPer (ref : ColumnRef) (greatestOnly : Bool)
    : ClausesFit (Projection.countPer ref).segments (groupSegments (some ref))
        (orderSegments greatestOnly) where
  counted := by
    intro _ other member
    obtain rfl := List.mem_singleton.mp member
    rfl
  grouped := by
    intro _
    refine ⟨rfl, ref, rfl, ?_⟩
    intro other member
    exact List.mem_singleton.mp member
  ordered := by
    intro ordered
    cases greatestOnly with
    | false => exact absurd rfl ordered
    | true => exact ⟨rfl, rfl, List.cons_ne_nil _ _⟩
  alone := by
    intro sums
    rcases sums with average | sum
    · exact absurd average (by simp [hasWords, Projection.segments]; decide)
    · exact absurd sum (by simp [hasWords, Projection.segments]; decide)

-----------------------------------------------------------------------------------------
-- The clauses of a reading
-----------------------------------------------------------------------------------------

namespace Reading

/-- Columns are counted by only where the maximum is asked for, by the other intents. -/
theorem projection_ne_countPer {r : Reading} (other : r.intent ≠ .maximum) (ref : ColumnRef)
    : r.projection ≠ .countPer ref := by
  unfold projection
  cases intent : r.intent with
  | maximum => exact absurd intent other
  | tally | minimum | filter => exact Projection.noConfusion
  | average => dsimp only; split <;> exact Projection.noConfusion
  | total | enumerate => dsimp only; split <;> exact Projection.noConfusion

/-- The clauses of a reading fit together, by its intent. Only a count may be grouped without being
ordered, and only a count beside its column is both. -/
theorem clausesFit (r : Reading)
    : ClausesFit r.projection.segments (groupSegments r.groupKey)
        (orderSegments r.greatestOnly) := by
  cases intent : r.intent with
  | tally =>
      have counts : r.projection = .count := by simp [projection, intent]
      have unordered : r.greatestOnly = false := by simp [greatestOnly, intent]
      rw [counts, unordered]
      exact clausesFit_count r.groupKey
  | maximum =>
      cases candidate : r.stationCandidate with
      | none =>
          have everything : r.projection = .everything := by simp [projection, intent, candidate]
          have ungrouped : r.groupKey = none := by simp [groupKey, candidate]
          have unordered : r.greatestOnly = false := by simp [greatestOnly, candidate]
          rw [everything, ungrouped, unordered]
          exact clausesFit_of_ungrouped fun _ => rfl
      | some m =>
          have counts : r.projection = .countPer (r.countingColumn m) := by
            simp [projection, intent, candidate]
          have grouped : r.groupKey = some (r.countingColumn m) := by
            simp [groupKey, intent, candidate]
          rw [counts, grouped]
          exact clausesFit_countPer (r.countingColumn m) r.greatestOnly
  | average | total | minimum | enumerate | filter =>
      have ungrouped : r.groupKey = none := by simp [groupKey, intent]
      have unordered : r.greatestOnly = false := by simp [greatestOnly, intent]
      rw [ungrouped, unordered]
      exact clausesFit_of_ungrouped
        (plainColumns_eq_nil (projection_ne_countPer (by simp [intent])))

/-- A question for an average or a total is neither grouped nor ordered, whatever it is answered
with. -/
theorem alone_of_intent {r : Reading} (sums : r.intent = .average ∨ r.intent = .total)
    : groupSegments r.groupKey = [] ∧ orderSegments r.greatestOnly = [] := by
  rcases sums with average | total
  · simp [groupKey, greatestOnly, groupSegments, orderSegments, average]
  · simp [groupKey, greatestOnly, groupSegments, orderSegments, total]

/-- The schema that has the columns of the candidates and no others. -/
def candidateSchema (r : Reading) : Schema :=
  { tables := r.candidates.map fun m => ⟨m.table, [⟨m.table, m.column, m.declaredType, true⟩]⟩ }

theorem over_candidateSchema (r : Reading)
    : r.Over r.candidateSchema :=
  fun _ hm => ⟨_, List.mem_map_of_mem hm, _, List.mem_singleton_self _, rfl, rfl⟩

/-- Names without open marks leave none in the phrases of any clause. -/
theorem clauses_avoid {r : Reading}
    (conventional : ∀ name ∈ r.conventions.names, marker ∉ name.toList)
    (candidates : ∀ m ∈ r.candidates, marker ∉ m.table.toList ∧ marker ∉ m.column.toList)
    : ∀ clause ∈ r.plan.clauses, AllPhrases (Phrase.Avoids marker) clause := by
  have named : ∀ name ∈ vocabulary r.candidateSchema r.conventions, marker ∉ name.toList := by
    intro name member
    simp only [vocabulary, List.mem_append] at member
    rcases member with (own | table) | column
    · exact conventional name own
    · obtain ⟨_, member, rfl⟩ := List.mem_map.mp table
      obtain ⟨m, hm, rfl⟩ := List.mem_map.mp member
      exact (candidates m hm).1
    · obtain ⟨_, member, rfl⟩ := List.mem_map.mp column
      obtain ⟨_, table, member⟩ := List.mem_flatMap.mp member
      obtain ⟨m, hm, rfl⟩ := List.mem_map.mp table
      obtain rfl := List.mem_singleton.mp member
      exact (candidates m hm).2
  have blank : (Phrase.words " ").Avoids marker := by decide
  exact (Plan.allPhrases_segments blank r.plan).mp
    (r.over_candidateSchema.segments_avoid named (by decide))

/-- Names without open marks leave every clause of a reading with its fragment, whatever the intent
and the candidates. The fragments of the projection, the grouping and the ordering write clauses
that fit together. -/
theorem clauses_fit (r : Reading) (referenced? : Option (List String))
    (conventional : ∀ name ∈ r.conventions.names, marker ∉ name.toList)
    (candidates : ∀ m ∈ r.candidates, marker ∉ m.table.toList ∧ marker ∉ m.column.toList)
    : ∃ selection grouping ordering,
        (r.clauses referenced?).selection = .ok selection
        ∧ (r.clauses referenced?).grouping = .ok grouping
        ∧ (r.clauses referenced?).ordering = .ok ordering
        ∧ selection.Writes r.projection.segments
        ∧ grouping.Writes (groupSegments r.groupKey)
        ∧ ordering.Writes (orderSegments r.greatestOnly)
        ∧ ClausesFit r.projection.segments (groupSegments r.groupKey)
          (orderSegments r.greatestOnly)
        ∧ (r.intent = .average ∨ r.intent = .total → grouping.text = "" ∧ ordering.text = "") := by
  have avoids := clauses_avoid conventional candidates
  have selections := r.projection.fragment_spells
  have groupings := groupFragment_spells r.groupKey
  have orderings := orderFragment_spells r.greatestOnly
  obtain ⟨selection, selected⟩ := selections.succeeds (avoids _ (by simp [Plan.clauses, plan]))
  obtain ⟨grouping, grouped⟩ := groupings.succeeds (avoids _ (by simp [Plan.clauses, plan]))
  obtain ⟨ordering, ordered⟩ := orderings.succeeds (avoids _ (by simp [Plan.clauses, plan]))
  have key := groupings.writes grouped
  have order := orderings.writes ordered
  refine ⟨selection, grouping, ordering, selected, grouped, ordered, selections.writes selected,
    key, order, r.clausesFit, ?_⟩
  intro sums
  obtain ⟨ungrouped, unordered⟩ := alone_of_intent sums
  rw [key.text, order.text, ungrouped, unordered]
  exact ⟨openText_nil, openText_nil⟩

/-- A question for the station with the most departures, by a key of the rides. -/
def departures : Reading where
  question := "most popular station"
  intent := .maximum
  tokens := ["popular", "station"]
  candidates := [⟨"trips", "start_station_id", "integer", Number.Binary64.zeroOf false, "station"⟩]
  span := none
  conventions := {}

/-- Stations are counted by their name and not by their key, and the names are what is grouped. -/
theorem clauses_fit_departures
    : ∃ selection grouping ordering,
        (departures.clauses none).selection = .ok selection
        ∧ (departures.clauses none).grouping = .ok grouping
        ∧ (departures.clauses none).ordering = .ok ordering
        ∧ selection.text = "SELECT stations.station_name, COUNT(*) AS count"
        ∧ grouping.text = "GROUP BY stations.station_name"
        ∧ ordering.text = "ORDER BY count DESC LIMIT 1" := by
  obtain ⟨selection, grouping, ordering, selected, grouped, ordered, projection, key, order, _⟩ :=
    departures.clauses_fit none (by decide) (by decide)
  exact ⟨selection, grouping, ordering, selected, grouped, ordered, projection.text, key.text,
    order.text⟩

end Reading

end RideQuestions.Query
