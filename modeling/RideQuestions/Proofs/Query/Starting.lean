import RideQuestions.Query.Planning

/-! The table that a query starts from. Where the best ranked candidate lives decides, and of the
other candidates it matters only that none lives in the fact table: they may be scattered over
dimensions that the query then does not reach.
-/

namespace RideQuestions.Query.Reading

/-- A query that starts from a table and goes no further has all it needs: its clauses refer to no
other table, no rain is asked for, and a station only where the table is that of the stations. -/
structure ServedBy (r : Reading) (referenced : List String) (table : String) : Prop where
  clauses : ∀ name ∈ referenced, name = table
  rain : r.needsWeather = false
  station : r.needsStation = true → table = r.conventions.stationTable

/-- A table is the only one that a query needs: there are candidates, every one of them lives in
it, and it serves everything else. -/
structure HeldBy (r : Reading) (referenced : List String) (table : String) : Prop where
  ranked : r.candidates ≠ []
  living : ∀ m ∈ r.candidates, m.table = table
  served : r.ServedBy referenced table

/-- A table is the one of the best ranked candidate, serves everything but the candidates, and no
candidate lives in the fact table. -/
structure LedBy (r : Reading) (referenced : List String) (table : String) : Prop where
  best : r.candidates.head?.map ColumnMatch.table = some table
  apart : ∀ m ∈ r.candidates, m.table ≠ r.conventions.factTable
  served : r.ServedBy referenced table

variable {r : Reading} {referenced : List String} {table : String}

theorem mem_matchedTables {candidates : List ColumnMatch}
    : table ∈ matchedTables candidates ↔ ∃ m ∈ candidates, m.table = table := by
  rw [matchedTables, List.mem_eraseDups, List.mem_map]

/-- The two looks that are taken at a table besides the candidates in it. -/
theorem servedBy_iff
    : r.ServedBy referenced table
      ↔ (r.needsWeather || !referenced.all (· = table)) = false
        ∧ (r.needsStation && table ≠ r.conventions.stationTable) = false := by
  rw [Bool.or_eq_false_iff, Bool.not_eq_false', List.all_eq_true, Bool.and_eq_false_iff,
    decide_eq_false_iff_not, Classical.not_not]
  constructor
  · intro served
    refine ⟨⟨served.rain, fun name member => decide_eq_true (served.clauses name member)⟩, ?_⟩
    cases need : r.needsStation with
    | false => exact .inl rfl
    | true => exact .inr (served.station need)
  · rintro ⟨⟨rain, clauses⟩, station⟩
    refine ⟨fun name member => of_decide_eq_true (clauses name member), rain, fun need => ?_⟩
    exact station.resolve_left (by simp [need])

/-- A query starts from its best ranked candidate's table if that serves everything else and no
candidate lives in the fact table, and from the fact table otherwise. -/
theorem startTable_of_ranked {first : ColumnMatch} {rest : List ColumnMatch}
    (ranked : r.candidates = first :: rest)
    : ((∀ m ∈ r.candidates, m.table ≠ r.conventions.factTable) ∧ r.ServedBy referenced first.table
        ∧ r.startTable referenced = first.table)
      ∨ (¬((∀ m ∈ r.candidates, m.table ≠ r.conventions.factTable)
            ∧ r.ServedBy referenced first.table)
        ∧ r.startTable referenced = r.conventions.factTable) := by
  obtain ⟨others, tables⟩ : ∃ others, matchedTables r.candidates = first.table :: others := by
    rw [ranked, matchedTables, List.map_cons, List.eraseDups_cons]
    exact ⟨_, rfl⟩
  have living : (first.table :: others).contains r.conventions.factTable = true
      ↔ ∃ m ∈ r.candidates, m.table = r.conventions.factTable := by
    rw [List.contains_iff_mem, ← tables, mem_matchedTables]
  unfold startTable
  rw [tables]
  dsimp only
  -- Three looks in turn: at the fact table among the candidates, at what else is needed besides a
  -- station, and at the station.
  split
  · next fact =>
      obtain ⟨m, member, same⟩ := living.mp fact
      exact .inr ⟨fun held => held.1 m member same, rfl⟩
  · next unfactual =>
      have apart : ∀ m ∈ r.candidates, m.table ≠ r.conventions.factTable := fun m member same =>
        unfactual (living.mpr ⟨m, member, same⟩)
      split
      · next needed =>
          refine .inr ⟨fun held => ?_, rfl⟩
          exact absurd ((servedBy_iff.mp held.2).1) (by simp only [needed]; decide)
      · next alone =>
          split
          · next unserved =>
              refine .inr ⟨fun held => ?_, rfl⟩
              exact absurd ((servedBy_iff.mp held.2).2) (by simp only [unserved]; decide)
          · next served =>
              have looked :=
                servedBy_iff.mpr ⟨eq_false_of_ne_true alone, eq_false_of_ne_true served⟩
              exact .inl ⟨apart, looked, rfl⟩

theorem startTable_of_unranked (unranked : r.candidates = [])
    : r.startTable referenced = r.conventions.factTable := by
  rw [startTable, unranked]
  rfl

/-- Whatever a query starts from besides the fact table is what it is led by. -/
theorem startTable_eq_iff (other : table ≠ r.conventions.factTable)
    : r.startTable referenced = table ↔ r.LedBy referenced table := by
  cases ranked : r.candidates with
  | nil =>
      have start : r.startTable referenced = r.conventions.factTable :=
        startTable_of_unranked ranked
      refine iff_of_false (fun same => other (same.symm.trans start)) fun led => ?_
      have best := led.best
      rw [ranked] at best
      exact absurd best (by simp)
  | cons first rest =>
      have head : r.candidates.head?.map ColumnMatch.table = some first.table := by
        rw [ranked]
        rfl
      rcases startTable_of_ranked ranked with ⟨apart, served, start⟩ | ⟨unled, start⟩
      · rw [start]
        constructor
        · rintro rfl
          exact ⟨head, apart, served⟩
        · exact fun led => Option.some.inj (head.symm.trans led.best)
      · rw [start]
        refine iff_of_false other.symm fun led => ?_
        obtain rfl := Option.some.inj (head.symm.trans led.best)
        exact unled ⟨led.apart, led.served⟩

/-- A table that holds all candidates is the one of the best ranked candidate. -/
theorem HeldBy.ledBy (h : r.HeldBy referenced table) (other : table ≠ r.conventions.factTable)
    : r.LedBy referenced table := by
  refine ⟨?_, fun m member same => other ((h.living m member).symm.trans same), h.served⟩
  cases ranked : r.candidates with
  | nil => exact absurd ranked h.ranked
  | cons first rest => exact congrArg some (h.living first (ranked ▸ List.mem_cons_self))

/-- The table of the best ranked candidate holds all of them when every one lives there. -/
theorem LedBy.heldBy (h : r.LedBy referenced table) (living : ∀ m ∈ r.candidates, m.table = table)
    : r.HeldBy referenced table := by
  refine ⟨fun none => ?_, living, h.served⟩
  have best := h.best
  rw [none] at best
  exact absurd best (by simp)

/-- A query starts from a table other than the fact table exactly when it is led by it, and from
the fact table when it is led by no other. A table that holds all candidates and serves everything
else is always started from; the converse holds exactly where every table that leads a query holds
all its candidates, so it fails when candidates are scattered over dimensions. -/
theorem startTable_rule (r : Reading) (referenced : List String)
    : (∀ table, table ≠ r.conventions.factTable →
          (r.startTable referenced = table ↔ r.LedBy referenced table))
      ∧ ((∀ table, table ≠ r.conventions.factTable → ¬r.LedBy referenced table) →
          r.startTable referenced = r.conventions.factTable)
      ∧ (∀ table, table ≠ r.conventions.factTable → r.HeldBy referenced table →
          r.startTable referenced = table)
      ∧ ((∀ table, table ≠ r.conventions.factTable →
            (r.startTable referenced = table ↔ r.HeldBy referenced table))
          ↔ ∀ table, table ≠ r.conventions.factTable → r.LedBy referenced table →
            ∀ m ∈ r.candidates, m.table = table) := by
  have led {table : String} (other : table ≠ r.conventions.factTable)
      : r.startTable referenced = table ↔ r.LedBy referenced table := startTable_eq_iff other
  refine ⟨fun _ => led, fun unled => ?_, fun _ other held => (led other).mpr (held.ledBy other),
    fun rule table other => ?_, fun living table other => ?_⟩
  · refine Classical.byContradiction fun other => ?_
    exact unled _ other ((led other).mp rfl)
  · intro leads
    exact ((rule table other).mp ((led other).mpr leads)).living
  · rw [led other]
    exact ⟨fun leads => leads.heldBy (living table other leads), fun held => held.ledBy other⟩

/-- A question whose candidates live in two dimensions. -/
def scattered : Reading :=
  {
    question := "names and dates",
    intent := .filter,
    tokens := ["names", "dates"],
    candidates :=
      [⟨"stations", "station_name", "text", Matching.containmentScore, "names"⟩,
       ⟨"daily_weather", "weather_date", "date", Matching.containmentScore, "dates"⟩],
    span := none,
    conventions := {}
  }

/-- Of candidates in two dimensions the better ranked one takes the query to its own, which does not
hold the other. -/
theorem startTable_scattered
    : scattered.startTable [] = "stations" ∧ "stations" ≠ scattered.conventions.factTable
      ∧ ¬scattered.HeldBy [] "stations" := by
  refine ⟨by decide +kernel, by decide, fun held => ?_⟩
  have living := held.living _ (List.mem_cons_of_mem _ List.mem_cons_self)
  exact absurd living (by decide)

end RideQuestions.Query.Reading
