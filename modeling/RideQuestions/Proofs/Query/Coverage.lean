import RideQuestions.Proofs.Query.Vocabulary

/-! Every table that a compiled text qualifies a column by is brought in by the text itself.
The fact table or the only table referred to begins the query, and joins hang onto the fact table.
-/

namespace RideQuestions.Query

open RideQuestions.Calendar

-----------------------------------------------------------------------------------------
-- The tables of a text
-----------------------------------------------------------------------------------------

variable {α : Type}

/-- The table that a segment qualifies a column by. -/
def Segment.qualifier? : Segment α → Option String
  | .fixed (.column ref) => some ref.table
  | _ => none

/-- The table that a segment begins the query with. -/
def Segment.started? : Segment α → Option String
  | .fixed (.start table) => some table
  | _ => none

/-- The table that a segment joins. -/
def Segment.joined? : Segment α → Option String
  | .fixed (.join table) => some table
  | _ => none

/-- The tables that some segments qualify columns by. -/
def qualifiers (segments : List (Segment α)) : List String :=
  segments.filterMap Segment.qualifier?

def startTables (segments : List (Segment α)) : List String :=
  segments.filterMap Segment.started?

def joinTables (segments : List (Segment α)) : List String :=
  segments.filterMap Segment.joined?

/-- The tables that some segments bring in. -/
def introduced (segments : List (Segment α)) : List String :=
  startTables segments ++ joinTables segments

@[simp] theorem qualifiers_nil : qualifiers ([] : List (Segment α)) = [] := rfl

@[simp] theorem qualifiers_words (text : String) (rest : List (Segment α))
    : qualifiers (.words text :: rest) = qualifiers rest := rfl

@[simp] theorem qualifiers_join (table : String) (rest : List (Segment α))
    : qualifiers (.join table :: rest) = qualifiers rest := rfl

@[simp] theorem qualifiers_column (ref : ColumnRef) (rest : List (Segment α))
    : qualifiers (.column ref :: rest) = ref.table :: qualifiers rest := rfl

@[simp] theorem qualifiers_bound (value : α) (rest : List (Segment α))
    : qualifiers (.bound value :: rest) = qualifiers rest := rfl

-----------------------------------------------------------------------------------------
-- The tables of a plan
-----------------------------------------------------------------------------------------

/-- A reading that takes tables and nothing else finds those of the source: where it starts, and
then its dimensions. -/
theorem Plan.filterMap_tables {β : Type} (p : Plan) (read : Segment Value → Option β)
    (words : ∀ text, read (.words text) = none) (columns : ∀ ref, read (.column ref) = none)
    (values : ∀ value, read (.bound value) = none)
    : p.segments.filterMap read
      = (read (.start p.source.start)).toList
        ++ p.source.joins.flatMap fun j => (read (.join j.table)).toList := by
  have projection : p.projection.segments.filterMap read = [] := by
    cases p.projection <;> simp [Projection.segments, words, columns]
  have source : p.source.segments.filterMap read
      = (read (.start p.source.start)).toList
        ++ p.source.joins.flatMap fun j => (read (.join j.table)).toList := by
    have join (j : Join) : j.segments.filterMap read = (read (.join j.table)).toList := by
      cases j <;>
        simp [Join.segments, Join.table, words, columns, List.filterMap_cons] <;>
        split <;> simp [*]
    rw [Source.segments, filterMap_joined read (words " "), List.flatMap_cons, List.flatMap_map]
    simp only [join]
    cases h : read (.start p.source.start) <;> simp [h]
  have filter : (filterSegments (p.predicates.map Predicate.segments)).filterMap read = [] := by
    rw [filterMap_filterSegments read (words _) (words _), List.flatMap_map]
    refine List.flatMap_eq_nil_iff.mpr ?_
    intro predicate _
    cases predicate <;> simp [Predicate.segments, words, columns, values]
  have group : (groupSegments p.groupKey).filterMap read = [] := by
    cases p.groupKey <;> simp [groupSegments, words, columns]
  have order : (orderSegments p.greatestOnly).filterMap read = [] := by
    cases p.greatestOnly <;> simp [orderSegments, words]
  rw [p.filterMap_segments read (words " ")]
  simp [Plan.clauses, projection, source, filter, group, order]

/-- A plan begins at its source's table and nowhere else. -/
theorem Plan.startTables_segments (p : Plan)
    : startTables p.segments = [p.source.start] := by
  rw [startTables, p.filterMap_tables Segment.started? (fun _ => rfl) (fun _ => rfl) fun _ => rfl]
  simp [Segment.started?]

/-- A plan joins the tables of its source's dimensions and no others. -/
theorem Plan.joinTables_segments (p : Plan)
    : joinTables p.segments = p.source.joins.map Join.table := by
  rw [joinTables, p.filterMap_tables Segment.joined? (fun _ => rfl) (fun _ => rfl) fun _ => rfl]
  exact List.map_eq_flatMap.symm

/-- A predicate qualifies its column and nothing else. -/
theorem Predicate.qualifiers_segments {p : Predicate} {table : String}
    (h : table ∈ qualifiers p.segments)
    : table = p.column.table := by
  cases p with
  | startedWithin start span =>
      have twice : table = start.table ∨ table = start.table := by
        simpa [Predicate.segments] using h
      exact twice.elim id id
  | riderGender column gender => exact List.mem_singleton.mp h
  | someRain precipitation => exact List.mem_singleton.mp h
  | atLocation name pattern => exact List.mem_singleton.mp h

/-- A plan qualifies columns in its projection, in the conditions of its joins, in its predicates
and in its group key. -/
theorem Plan.mem_qualifiers_segments {p : Plan} {table : String}
    (h : table ∈ qualifiers p.segments)
    : table ∈ qualifiers p.projection.segments
      ∨ (∃ j ∈ p.source.joins, table ∈ qualifiers j.segments)
      ∨ (∃ predicate ∈ p.predicates, table = predicate.column.table)
      ∨ ∃ key, p.groupKey = some key ∧ table = key.table := by
  rw [qualifiers, p.filterMap_segments Segment.qualifier? rfl] at h
  obtain ⟨clause, member, h⟩ := List.mem_flatMap.mp h
  simp only [Plan.clauses, List.mem_cons, List.not_mem_nil, or_false] at member
  rcases member with rfl | rfl | rfl | rfl | rfl
  · exact Or.inl h
  · rw [Source.segments, filterMap_joined Segment.qualifier? rfl, List.flatMap_cons,
      List.flatMap_map] at h
    obtain ⟨j, hj, h⟩ := List.mem_flatMap.mp h
    exact Or.inr (Or.inl ⟨j, hj, h⟩)
  · rw [filterMap_filterSegments Segment.qualifier? rfl rfl, List.flatMap_map] at h
    obtain ⟨predicate, hp, h⟩ := List.mem_flatMap.mp h
    exact Or.inr (Or.inr (Or.inl ⟨predicate, hp, Predicate.qualifiers_segments h⟩))
  · cases hk : p.groupKey with
    | none => simp [hk, groupSegments] at h
    | some key =>
        rw [hk] at h
        exact Or.inr (Or.inr (Or.inr ⟨key, rfl, List.mem_singleton.mp h⟩))
  · cases ho : p.greatestOnly <;> simp [ho, orderSegments, Segment.qualifier?] at h

-----------------------------------------------------------------------------------------
-- The tables of a reading
-----------------------------------------------------------------------------------------

namespace Reading

variable {r : Reading} {s : Schema}

/-- A projection qualifies its columns by the tables that it declares: an average has both its
columns in the fact table, and no other projection has two. -/
theorem Over.qualifiers_projection (h : r.Over s) {table : String}
    (member : table ∈ qualifiers r.projection.segments)
    : table ∈ r.projection.tables := by
  have chosen := h.projection_mem
  generalize r.projection = projection at chosen member ⊢
  cases projection with
  | averageMinutes start finish =>
      obtain ⟨rfl, rfl⟩ : start = r.conventions.factStart ∧ finish = r.conventions.factEnd := by
        simpa [projections] using chosen
      have fact : table = r.conventions.factTable := by
        simpa [Projection.segments, Conventions.factStart, Conventions.factEnd] using member
      exact List.mem_singleton.mpr fact
  | _ => exact member

/-- Every table that a reading's text qualifies a column by is referred to by a clause that
declares it, or stands in the condition of a join. -/
theorem Over.qualifiers_referenced (h : r.Over s) {table : String}
    (member : table ∈ qualifiers r.plan.segments)
    : table ∈ r.referenced
      ∨ ∃ j ∈ (r.source r.referenced).joins, table ∈ qualifiers j.segments := by
  rcases Plan.mem_qualifiers_segments member with hq | hq | ⟨predicate, hp, rfl⟩ | ⟨key, hk, rfl⟩
  · exact Or.inl (List.mem_append_left _ (List.mem_append_left _ (h.qualifiers_projection hq)))
  · exact Or.inr hq
  · refine Or.inl (List.mem_append_left _ (List.mem_append_right _ ?_))
    exact List.mem_map_of_mem (f := fun p : Predicate => p.column.table) hp
  · have grouped : r.groupKey = some key := hk
    exact Or.inl (List.mem_append_right _ (by simp [grouped]))

/-- Over tables that the conventions know, every table qualified by is one of theirs. -/
theorem Over.qualifiers_known (h : r.Over s)
    (known : ∀ table ∈ s.tableNames, table ∈ r.conventions.tables) {table : String}
    (member : table ∈ qualifiers r.plan.segments)
    : table ∈ r.conventions.tables := by
  obtain ⟨segment, hs, qualified⟩ := List.mem_filterMap.mp member
  cases segment with
  | bound value => simp [Segment.qualifier?] at qualified
  | fixed phrase =>
      have drawn := h.segments_drawn phrase hs
      cases phrase with
      | words _ | start _ | join _ => simp [Segment.qualifier?] at qualified
      | column ref =>
          obtain rfl : ref.table = table := by simpa [Segment.qualifier?] using qualified
          rcases List.mem_append.mp drawn with own | read
          · exact (Conventions.names_of_mem_columns own).1
          · exact known _ (names_of_mem_columnRefs read).1

/-- The dimensions over the fact table are the station table and the weather table, each when the
question needs it or a clause refers to it. -/
theorem map_table_joins (r : Reading) (referenced : List String)
    : (r.joins referenced).map Join.table
      = (if r.needsStation || referenced.contains r.conventions.stationTable then
          [r.conventions.stationTable]
        else [])
        ++ (if r.needsWeather || referenced.contains r.conventions.weatherTable then
          [r.conventions.weatherTable]
        else []) := by
  unfold joins
  dsimp only
  split <;> split <;> rfl

/-- The condition of a join qualifies its columns by the fact table and the table joined. -/
theorem qualifiers_of_mem_joins {referenced : List String} {j : Join}
    (hj : j ∈ r.joins referenced) {table : String} (h : table ∈ qualifiers j.segments)
    : table = r.conventions.factTable ∨ table = j.table := by
  have either : j = .station r.conventions.factStation r.conventions.stationId
      ∨ j = .weather r.conventions.factStart r.conventions.weatherDay := by
    rcases List.mem_append.mp hj with hj | hj
    · split at hj
      · exact Or.inl (List.mem_singleton.mp hj)
      · exact absurd hj List.not_mem_nil
    · split at hj
      · exact Or.inr (List.mem_singleton.mp hj)
      · exact absurd hj List.not_mem_nil
  rcases either with rfl | rfl
  · simpa [Join.segments, Join.table, Conventions.factStation] using h
  · simpa [Join.segments, Join.table, Conventions.factStart] using h

/-- A reading's text brings in the table that it starts at, and behind the fact table the
dimensions. -/
theorem introduced_segments (r : Reading)
    : introduced r.plan.segments
      = r.startTable r.referenced
        :: if r.startTable r.referenced = r.conventions.factTable then
            (r.joins r.referenced).map Join.table
          else [] := by
  rw [introduced, Plan.startTables_segments, Plan.joinTables_segments]
  change r.startTable r.referenced :: List.map Join.table (if _ then _ else _) = _
  split <;> rfl

/-- Every table that a reading's text qualifies a column by is brought in. Behind the fact table
each dimension referred to is joined; another table starts a text only when no clause refers to
anything else. -/
theorem Over.qualifiers_introduced (h : r.Over s)
    (known : ∀ table ∈ s.tableNames, table ∈ r.conventions.tables) {table : String}
    (member : table ∈ qualifiers r.plan.segments)
    : table ∈ introduced r.plan.segments := by
  rw [introduced_segments]
  by_cases fact : r.startTable r.referenced = r.conventions.factTable
  · rw [if_pos fact, fact]
    rcases h.qualifiers_referenced member with referred | ⟨j, hj, qualified⟩
    · have ours := h.qualifiers_known known member
      simp only [Conventions.tables, List.mem_cons, List.not_mem_nil, or_false] at ours
      rw [map_table_joins]
      rcases ours with rfl | rfl | rfl
      · exact List.mem_cons_self
      · simp [referred]
      · simp [referred]
    · rw [source, if_pos fact] at hj
      rcases qualifiers_of_mem_joins hj qualified with rfl | rfl
      · exact List.mem_cons_self
      · exact List.mem_cons_of_mem _ (List.mem_map_of_mem hj)
  · rw [if_neg fact]
    rcases r.startTable_cases r.referenced with start | ⟨m, _, start, alone, _⟩
    · exact absurd start fact
    rcases h.qualifiers_referenced member with referred | ⟨j, hj, _⟩
    · rw [start]
      exact List.mem_singleton.mpr (alone table referred)
    · rw [source, if_neg fact] at hj
      exact absurd hj List.not_mem_nil

/-- Distinct tables are brought in once each. -/
theorem nodup_introduced (r : Reading) (distinct : r.conventions.tables.Nodup)
    : (introduced r.plan.segments).Nodup := by
  rw [introduced_segments]
  split
  · next fact =>
      rw [fact, map_table_joins]
      refine List.Sublist.nodup ?_ distinct
      change List.Sublist _ (_ :: ([_] ++ [_]))
      refine List.Sublist.cons_cons _ (List.Sublist.append ?_ ?_)
      · split
        · exact List.Sublist.refl _
        · exact List.nil_sublist _
      · split
        · exact List.Sublist.refl _
        · exact List.nil_sublist _
  · exact List.nodup_singleton _

/-- The station table is brought in when the question needs it: it is joined to the fact table, or
it is where the text starts. -/
theorem station_introduced (r : Reading) (needed : r.needsStation = true)
    : r.conventions.stationTable ∈ introduced r.plan.segments := by
  rw [introduced_segments]
  rcases r.startTable_cases r.referenced with fact | ⟨m, _, start, _, _, served⟩
  · rw [if_pos fact, map_table_joins]
    simp [needed]
  · rw [start, served needed]
    exact List.mem_cons_self

/-- The weather table is brought in when the question needs it, since only the fact table starts
such a text. -/
theorem weather_introduced (r : Reading) (needed : r.needsWeather = true)
    : r.conventions.weatherTable ∈ introduced r.plan.segments := by
  rw [introduced_segments]
  rcases r.startTable_cases r.referenced with fact | ⟨_, _, _, _, dry, _⟩
  · rw [if_pos fact, map_table_joins]
    simp [needed]
  · exact absurd needed (by simp [dry])

end Reading

-----------------------------------------------------------------------------------------
-- Compiled queries
-----------------------------------------------------------------------------------------

/-- Over three distinct conventional tables, a compiled text brings in every table that it
qualifies a column by, each once, and joins only behind the fact table. A question that speaks of
stations or rain brings in their tables. No other words of a text have a dot in them. -/
theorem Compiler.compiled_tables_introduced (config : CompilerConfig) (calls : List Call)
    (question : String) (now : Instant) (q : CompiledQuery)
    (distinct : config.conventions.tables.Nodup)
    (known : ∀ table ∈ (latestSchema calls).tableNames, table ∈ config.conventions.tables)
    (compiled : (((new config).after calls).compile question now).1 = .ok q)
    : ∃ r, reading config question q.candidates now = .ok r
      ∧ q.text = write dollarMark r.plan.segments
      ∧ (∀ text, Segment.words text ∈ r.plan.segments →
          text ∈ queryWords ∧ '.' ∉ text.toList)
      ∧ (∀ table ∈ qualifiers r.plan.segments, table ∈ introduced r.plan.segments)
      ∧ (introduced r.plan.segments).Nodup
      ∧ (∃ start, startTables r.plan.segments = [start]
        ∧ (joinTables r.plan.segments ≠ [] → start = config.conventions.factTable))
      ∧ (∀ term ∈ stationNeedTerms, Text.holds (Text.lower question) term = true →
          config.conventions.stationTable ∈ introduced r.plan.segments)
      ∧ ∀ term ∈ weatherNeedTerms, Text.holds (Text.lower question) term = true →
          config.conventions.weatherTable ∈ introduced r.plan.segments := by
  obtain ⟨r, read, onSchema, _, _, text, _⟩ := compiled_written compiled
  obtain ⟨asked, _, conventions⟩ := reading_keeps read
  rw [← conventions] at distinct known ⊢
  refine ⟨r, read, text, ?_, ?_, r.nodup_introduced distinct, ?_, ?_, ?_⟩
  · intro text member
    have drawn : text ∈ queryWords := onSchema.segments_drawn (.words text) member
    have plain : ∀ text ∈ queryWords, '.' ∉ text.toList := by decide
    exact ⟨drawn, plain text drawn⟩
  · intro table member
    exact onSchema.qualifiers_introduced known member
  · refine ⟨r.plan.source.start, r.plan.startTables_segments, ?_⟩
    intro joined
    by_contra elsewhere
    refine joined ?_
    rw [Plan.joinTables_segments]
    exact congrArg (List.map Join.table) (if_neg elsewhere)
  · intro term member held
    refine r.station_introduced (List.any_eq_true.mpr ⟨term, member, ?_⟩)
    rw [Reading.lowered, asked]
    exact held
  · intro term member held
    refine r.weather_introduced (List.any_eq_true.mpr ⟨term, member, ?_⟩)
    rw [Reading.lowered, asked]
    exact held

/-- A question about rain at a station has the tables of both joined to the rides. -/
theorem Compiler.compiled_tables_introduced_rain
    : ∃ q, (((new {}).after [.publish rideSchema]).compile
          "most popular station in the rain" midyear).1 = .ok q
        ∧ ∃ r : Reading, q.text = write dollarMark r.plan.segments
          ∧ "stations" ∈ introduced r.plan.segments
          ∧ "daily_weather" ∈ introduced r.plan.segments := by
  obtain ⟨q, compiled⟩ := (exists_compiled_iff {} [.publish rideSchema]
    "most popular station in the rain" midyear (by decide)).mpr ⟨none, rfl⟩
  obtain ⟨r, _, text, _, _, _, _, station, weather⟩ :=
    compiled_tables_introduced {} [.publish rideSchema] _ midyear q (by decide) (by decide) compiled
  exact ⟨q, compiled, r, text, station "station" (by decide) (by decide),
    weather "rain" (by decide) (by decide)⟩

end RideQuestions.Query
