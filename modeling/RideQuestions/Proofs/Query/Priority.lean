import RideQuestions.Query.Reading
import Mathlib.Data.List.Basic

/-! The column that keywords choose. Of the accepted candidates it is the one that comes first by
the place of the earliest keyword it is named by, and by rank among those with the same one; so a
keyword of greater priority outweighs any rank, and candidates without a keyword do not count.
-/

namespace RideQuestions.Query

-----------------------------------------------------------------------------------------
-- Names and keywords
-----------------------------------------------------------------------------------------

/-- A keyword stands in the lower-case name of a match's column or table. -/
def NamedBy (keyword : String) (m : ColumnMatch) : Prop :=
  keyword.toList <:+: (Text.lower m.column).toList
    ∨ keyword.toList <:+: (Text.lower m.table).toList

/-- Of the keywords that a match is named by, the earliest one stands at a place. -/
structure EarliestAt (keywords : List String) (place : Nat) (m : ColumnMatch) : Prop where
  named : ∃ keyword, keywords[place]? = some keyword ∧ NamedBy keyword m
  earliest : ∀ before < place, ∀ keyword, keywords[before]? = some keyword → ¬NamedBy keyword m

/-- A candidate of some rank is accepted, and among all that are accepted and named by a keyword it
comes first: none has an earlier keyword, and none with the same one has a better rank. -/
structure Foremost (candidates : List ColumnMatch) (keywords : List String)
    (accept : ColumnMatch → Bool) (m : ColumnMatch) (place rank : Nat) : Prop where
  ranked : candidates[rank]? = some m
  accepted : accept m = true
  named : EarliestAt keywords place m
  first : ∀ other otherPlace otherRank, candidates[otherRank]? = some other →
    accept other = true → EarliestAt keywords otherPlace other →
    place < otherPlace ∨ (place = otherPlace ∧ rank ≤ otherRank)

/-- A candidate has a temporal type, and no better ranked one has. -/
structure FirstTemporal (candidates : List ColumnMatch) (m : ColumnMatch) (rank : Nat)
    : Prop where
  ranked : candidates[rank]? = some m
  temporal : m.isTemporal = true
  first : ∀ better < rank, ∀ other, candidates[better]? = some other → other.isTemporal = false

variable {candidates : List ColumnMatch} {keywords : List String} {accept : ColumnMatch → Bool}
  {keyword : String} {m : ColumnMatch} {place rank : Nat}

theorem mentions_iff
    : mentions keyword m = true ↔ NamedBy keyword m := by
  rw [mentions, Bool.or_eq_true, Text.holds, Text.holds, Text.occursIn_iff, Text.occursIn_iff,
    NamedBy]

instance (keyword : String) (m : ColumnMatch) : Decidable (NamedBy keyword m) :=
  decidable_of_iff _ mentions_iff

theorem EarliestAt.mem (h : EarliestAt keywords place m)
    : ∃ keyword ∈ keywords, NamedBy keyword m := by
  obtain ⟨keyword, found, named⟩ := h.named
  exact ⟨keyword, List.mem_of_getElem? found, named⟩

-----------------------------------------------------------------------------------------
-- The chosen column
-----------------------------------------------------------------------------------------

/-- No column is chosen when no accepted candidate is named by a keyword. -/
theorem findColumn_eq_none_iff
    : findColumn candidates keywords accept = none
      ↔ ∀ m ∈ candidates, accept m = true → ∀ keyword ∈ keywords, ¬NamedBy keyword m := by
  simp only [findColumn, List.findSome?_eq_none_iff, List.find?_eq_none, Bool.and_eq_true,
    mentions_iff, not_and]
  constructor
  · exact fun absent m member accepted keyword listed named =>
      absent keyword listed m member named accepted
  · exact fun absent keyword listed m member named accepted =>
      absent m member accepted keyword listed named

/-- A chosen column is foremost: candidates without any keyword before its own were passed over, and
of those with its own the better ranked ones were not accepted. -/
theorem exists_foremost (found : findColumn candidates keywords accept = some m)
    : ∃ place rank, Foremost candidates keywords accept m place rank := by
  obtain ⟨before, keyword, behind, rfl, chosen, passed⟩ := List.findSome?_eq_some_iff.mp found
  obtain ⟨qualified, rank, inside, same, worse⟩ := List.find?_eq_some_iff_getElem.mp chosen
  rw [Bool.and_eq_true, mentions_iff] at qualified
  have here : (before ++ keyword :: behind)[before.length]? = some keyword := by simp
  have absent {n : ColumnMatch} {place : Nat} {k : String} (member : n ∈ candidates)
      (accepted : accept n = true) (lower : place < before.length)
      (stands : (before ++ keyword :: behind)[place]? = some k) : ¬NamedBy k n := by
    intro named
    rw [List.getElem?_append_left lower] at stands
    have unfound := List.find?_eq_none.mp (passed k (List.mem_of_getElem? stands)) n member
    exact unfound (Bool.and_eq_true_iff.mpr ⟨mentions_iff.mpr named, accepted⟩)
  have ranked : candidates[rank]? = some m := List.getElem?_eq_some_iff.mpr ⟨inside, same⟩
  refine ⟨before.length, rank, ranked, qualified.2, ⟨⟨keyword, here, qualified.1⟩, ?_⟩, ?_⟩
  · exact fun place lower k stands =>
      absent (List.mem_of_getElem? ranked) qualified.2 lower stands
  · intro other otherPlace otherRank standing accepted named
    obtain ⟨k, stands, names⟩ := named.named
    rcases Nat.lt_trichotomy before.length otherPlace with later | equal | lower
    · exact .inl later
    · refine .inr ⟨equal, Nat.le_of_not_lt fun better => ?_⟩
      rw [← equal, here] at stands
      obtain rfl := Option.some.inj stands
      obtain ⟨otherInside, otherSame⟩ := List.getElem?_eq_some_iff.mp standing
      have refused := worse otherRank better
      rw [otherSame, mentions_iff.mpr names, accepted] at refused
      exact absurd refused (by decide)
    · exact absurd names (absent (List.mem_of_getElem? standing) accepted lower stands)

/-- There is one foremost candidate at most. -/
theorem Foremost.unique {n : ColumnMatch} {place' rank' : Nat}
    (h : Foremost candidates keywords accept m place rank)
    (other : Foremost candidates keywords accept n place' rank')
    : m = n := by
  have one := h.first n place' rank' other.ranked other.accepted other.named
  have two := other.first m place rank h.ranked h.accepted h.named
  obtain rfl : rank = rank' := by omega
  exact Option.some.inj (h.ranked.symm.trans other.ranked)

/-- A column is chosen exactly when it is foremost. -/
theorem findColumn_eq_some_iff
    : findColumn candidates keywords accept = some m
      ↔ ∃ place rank, Foremost candidates keywords accept m place rank := by
  constructor
  · exact exists_foremost
  · rintro ⟨place, rank, foremost⟩
    cases found : findColumn candidates keywords accept with
    | none =>
        obtain ⟨keyword, listed, named⟩ := foremost.named.mem
        exact absurd named (findColumn_eq_none_iff.mp found m
          (List.mem_of_getElem? foremost.ranked) foremost.accepted keyword listed)
    | some n =>
        obtain ⟨_, _, chosen⟩ := exists_foremost found
        rw [chosen.unique foremost]

/-- A candidate without a keyword changes nothing, wherever it is ranked, by induction on the
keywords. -/
theorem findColumn_insert (before behind : List ColumnMatch)
    (unnamed : ∀ keyword ∈ keywords, ¬NamedBy keyword m)
    : findColumn (before ++ m :: behind) keywords accept
      = findColumn (before ++ behind) keywords accept := by
  unfold findColumn
  induction keywords with
  | nil => rfl
  | cons keyword rest ih =>
      obtain ⟨here, others⟩ := List.forall_mem_cons.mp unnamed
      have passed : (m :: behind).find? (fun n => mentions keyword n && accept n)
          = behind.find? fun n => mentions keyword n && accept n :=
        List.find?_cons_of_neg fun both =>
          here (mentions_iff.mp (Bool.and_eq_true_iff.mp both).1)
      rw [List.findSome?_cons, List.findSome?_cons, ih others, List.find?_append, passed,
        List.find?_append]

-----------------------------------------------------------------------------------------
-- The column of a time
-----------------------------------------------------------------------------------------

theorem find?_isTemporal_eq_some_iff
    : candidates.find? ColumnMatch.isTemporal = some m
      ↔ ∃ rank, FirstTemporal candidates m rank := by
  rw [List.find?_eq_some_iff_getElem]
  constructor
  · rintro ⟨temporal, rank, inside, same, first⟩
    refine ⟨rank, List.getElem?_eq_some_iff.mpr ⟨inside, same⟩, temporal, ?_⟩
    intro better lower other standing
    obtain ⟨_, rfl⟩ := List.getElem?_eq_some_iff.mp standing
    simpa using first better lower
  · rintro ⟨rank, ranked, temporal, first⟩
    obtain ⟨inside, same⟩ := List.getElem?_eq_some_iff.mp ranked
    refine ⟨temporal, rank, inside, same, fun better lower => ?_⟩
    simpa using first better lower _ (List.getElem?_eq_getElem _)

/-- The column of a time is the one that its keywords choose, and only without such a one the best
ranked one of a temporal type. -/
theorem findTimeColumn_eq_some_iff
    : findTimeColumn candidates = some m
      ↔ (∃ place rank, Foremost candidates timeKeywords (fun _ => true) m place rank)
        ∨ (∀ n ∈ candidates, ∀ keyword ∈ timeKeywords, ¬NamedBy keyword n)
          ∧ ∃ rank, FirstTemporal candidates m rank := by
  have absent : findColumn candidates timeKeywords (fun _ => true) = none
      ↔ ∀ n ∈ candidates, ∀ keyword ∈ timeKeywords, ¬NamedBy keyword n := by
    simp only [findColumn_eq_none_iff, forall_const]
  rw [← findColumn_eq_some_iff, ← absent, ← find?_isTemporal_eq_some_iff, findTimeColumn]
  cases findColumn candidates timeKeywords fun _ => true with
  | none => simp
  | some n => simp

/-- Keywords outweigh rank. For any candidates, keywords and acceptance, no column is chosen exactly
when no accepted candidate is named by a keyword, and otherwise the accepted one that comes first by
the place of its earliest keyword and then by rank. The column of a time is chosen so by the
keywords for durations if any candidate is named by one, and else is the best ranked one of a
temporal type. A candidate without a keyword does not change what is chosen. -/
theorem findColumn_foremost (candidates : List ColumnMatch) (keywords : List String)
    (accept : ColumnMatch → Bool)
    : (findColumn candidates keywords accept = none
        ↔ ∀ m ∈ candidates, accept m = true → ∀ keyword ∈ keywords, ¬NamedBy keyword m)
      ∧ (∀ m, findColumn candidates keywords accept = some m
        ↔ ∃ place rank, Foremost candidates keywords accept m place rank)
      ∧ (∀ m, findTimeColumn candidates = some m
        ↔ (∃ place rank, Foremost candidates timeKeywords (fun _ => true) m place rank)
          ∨ (∀ n ∈ candidates, ∀ keyword ∈ timeKeywords, ¬NamedBy keyword n)
            ∧ ∃ rank, FirstTemporal candidates m rank)
      ∧ ∀ m before behind, candidates = before ++ behind →
        (∀ keyword ∈ keywords, ¬NamedBy keyword m) →
        findColumn (before ++ m :: behind) keywords accept
          = findColumn candidates keywords accept := by
  refine ⟨findColumn_eq_none_iff, fun _ => findColumn_eq_some_iff,
    fun _ => findTimeColumn_eq_some_iff, ?_⟩
  rintro m before behind rfl unnamed
  exact findColumn_insert before behind unnamed

/-- A candidate as it is ranked for a word of a question. -/
private def candidate (table column declaredType : String) : ColumnMatch :=
  ⟨table, column, declaredType, Matching.containmentScore, column⟩

/-- The start and the length of a ride are ranked before a column that has `time` in its name. -/
def rideTimes : List ColumnMatch :=
  [
    candidate "trips" "started_at" "timestamp", candidate "trips" "duration_minutes" "integer",
    candidate "trips" "Ride_Time" "text"
  ]

/-- The column with `time` in its name is chosen although it is ranked last and has no temporal
type, also behind the name of a station. -/
theorem findColumn_foremost_rideTimes
    : rideTimes = [candidate "trips" "started_at" "timestamp"] ++ rideTimes.drop 1
      ∧ (∀ keyword ∈ timeKeywords, ¬NamedBy keyword (candidate "stations" "station_name" "text"))
      ∧ findTimeColumn rideTimes = some (candidate "trips" "Ride_Time" "text")
      ∧ findColumn
          ([candidate "trips" "started_at" "timestamp"]
            ++ candidate "stations" "station_name" "text" :: rideTimes.drop 1)
          timeKeywords (fun _ => true)
        = some (candidate "trips" "Ride_Time" "text") := by
  obtain ⟨_, chosen, timed, inserted⟩ := findColumn_foremost rideTimes timeKeywords fun _ => true
  have unnamed : ∀ keyword ∈ timeKeywords,
      ¬NamedBy keyword (candidate "stations" "station_name" "text") := by decide +kernel
  have others : ∀ m ∈ rideTimes.take 2, ¬NamedBy "time" m := by decide +kernel
  have foremost : Foremost rideTimes timeKeywords (fun _ => true)
      (candidate "trips" "Ride_Time" "text") 0 2 := by
    refine ⟨rfl, rfl, ⟨⟨"time", rfl, by decide +kernel⟩, nofun⟩, ?_⟩
    intro other place rank standing _ named
    cases place with
    | succ place => exact .inl place.succ_pos
    | zero =>
        obtain ⟨keyword, stands, names⟩ := named.named
        obtain rfl := Option.some.inj stands
        refine .inr ⟨rfl, Nat.le_of_not_lt fun better => others other ?_ names⟩
        rw [← List.getElem?_take_of_lt better] at standing
        exact List.mem_of_getElem? standing
  have same : rideTimes = [candidate "trips" "started_at" "timestamp"] ++ rideTimes.drop 1 := rfl
  refine ⟨same, unnamed, (timed _).mpr (.inl ⟨0, 2, foremost⟩), ?_⟩
  rw [inserted _ _ _ same unnamed]
  exact (chosen _).mpr ⟨0, 2, foremost⟩

end RideQuestions.Query
