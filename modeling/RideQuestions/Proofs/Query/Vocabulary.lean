import Mathlib.Data.List.Sublists
import RideQuestions.Proofs.Query.Session
import RideQuestions.Proofs.Query.Starting

/-! What a compiled text can say. Of the question, only choices among names of the schema and of
the conventions reach the text, so that a schema and conventions allow finitely many texts.
-/

namespace RideQuestions

/-- Every column of a schema, named with its table. -/
def Schema.columnRefs (s : Schema) : List Query.ColumnRef :=
  s.tables.flatMap fun table => table.columns.map fun column => ⟨table.name, column.name⟩

namespace Query

open RideQuestions.Calendar

-----------------------------------------------------------------------------------------
-- The finitely many clauses
-----------------------------------------------------------------------------------------

/-- Every projection over a schema. -/
def projections (s : Schema) (c : Conventions) : List Projection :=
  [.everything, .count, .averageMinutes c.factStart c.factEnd]
    ++ s.columnRefs.map .sum
    ++ (c.stationName :: s.columnRefs).map .countPer
    ++ s.columnRefs.map .values

/-- Every source over a schema: the fact table with some of its dimensions, or a table alone. -/
def sources (s : Schema) (c : Conventions) : List Source :=
  [.station c.factStation c.stationId, .weather c.factStart c.weatherDay].sublists.map
      (Source.mk c.factTable)
    ++ s.tableNames.map fun table => ⟨table, []⟩

/-- The four conditions without their values: the period, the gender, rain and the place. -/
def conditions (c : Conventions) : List (List (Segment Unit)) :=
  [
    [.column c.factStart, .words " >= CAST(", .bound (), .words " AS timestamp) AND ",
     .column c.factStart, .words " <= CAST(", .bound (), .words " AS timestamp)"],
    [.column c.factGender, .words " = ", .bound ()],
    [.column c.precipitation, .words " > ", .bound ()],
    [.column c.stationName, .words " ILIKE ", .bound ()]
  ]

/-- Every column to group by, or none. -/
def groupKeys (s : Schema) (c : Conventions) : List (Option ColumnRef) :=
  none :: (c.stationName :: s.columnRefs).map some

/-- The segments of a text made of given clauses, without values. -/
def shape (projection : Projection) (source : Source) (conditions : List (List (Segment Unit)))
    (groupKey : Option ColumnRef) (greatestOnly : Bool) : List (Segment Unit) :=
  joined " "
    ([projection.segments.map Segment.erase, source.segments.map Segment.erase,
      filterSegments conditions, (groupSegments groupKey).map Segment.erase,
      (orderSegments greatestOnly).map Segment.erase].filter fun clause => !clause.isEmpty)

/-- Every text over a schema: a projection, a source, some of the conditions in their order, and
perhaps a grouping and an ordering, with a space between any two clauses. -/
def possibleTexts (s : Schema) (c : Conventions) : List String :=
  (projections s c).flatMap fun projection =>
    (sources s c).flatMap fun source =>
      (conditions c).sublists.flatMap fun conditions =>
        (groupKeys s c).flatMap fun groupKey =>
          [false, true].map fun greatestOnly =>
            write dollarMark (shape projection source conditions groupKey greatestOnly)

/-- The values bound for a period, a gender, rain and a place, as far as they are there. -/
def Conventions.boundValues (c : Conventions) (span : Option Span) (gender : Option Gender)
    (rain place : Bool) : List Value :=
  (span.toList.flatMap fun s => [.text s.first.literal, .text s.last.literal])
    ++ gender.toList.map (fun g => .text g.text)
    ++ (if rain then [.int 0] else [])
    ++ (if place then [.text c.locationPattern] else [])

-----------------------------------------------------------------------------------------
-- The clauses of a reading are among them
-----------------------------------------------------------------------------------------

/-- A column that is found is one of the candidates. -/
theorem mem_of_findColumn {candidates : List ColumnMatch} {keywords : List String}
    {accept : ColumnMatch → Bool} {m : ColumnMatch}
    (h : findColumn candidates keywords accept = some m)
    : m ∈ candidates := by
  obtain ⟨keyword, _, found⟩ := List.exists_of_findSome?_eq_some h
  exact List.mem_of_find?_eq_some found

namespace Reading

variable {r : Reading} {s : Schema}

theorem Over.refOf_mem (h : r.Over s) {m : ColumnMatch} (hm : m ∈ r.candidates)
    : refOf m ∈ s.columnRefs := by
  obtain ⟨table, ht, column, hc, same_table, same_column⟩ := h m hm
  refine List.mem_flatMap.mpr ⟨table, ht, List.mem_map.mpr ⟨column, hc, ?_⟩⟩
  rw [refOf, same_table, same_column]

theorem Over.table_mem (h : r.Over s) {m : ColumnMatch} (hm : m ∈ r.candidates)
    : m.table ∈ s.tableNames := by
  obtain ⟨table, ht, _, _, same_table, _⟩ := h m hm
  exact same_table ▸ List.mem_map_of_mem ht

/-- A candidate is counted by the station's name or by a column of the schema. -/
theorem Over.countingColumn_mem (h : r.Over s) {m : ColumnMatch} (hm : m ∈ r.candidates)
    : r.countingColumn m ∈ r.conventions.stationName :: s.columnRefs := by
  unfold countingColumn
  split
  · exact List.mem_cons_self
  · exact List.mem_cons_of_mem _ (h.refOf_mem hm)

/-- The projection of a reading is one of the schema's, by the intent. -/
theorem Over.projection_mem (h : r.Over s)
    : r.projection ∈ projections s r.conventions := by
  unfold projection projections
  cases r.intent with
  | tally => simp
  | minimum => simp
  | filter => simp
  | average => dsimp only; split <;> simp
  | total =>
      cases hf : findNumericColumn r.candidates distanceKeywords with
      | none => simp
      | some m => simp [h.refOf_mem (mem_of_findColumn hf)]
  | maximum =>
      cases hf : r.stationCandidate with
      | none => simp
      | some m =>
          have counted := h.countingColumn_mem (mem_of_findColumn hf)
          exact List.mem_append_left _ (List.mem_append_right _ (List.mem_map_of_mem counted))
  | enumerate =>
      cases hf : r.stationCandidate with
      | none => simp
      | some m => simp [h.refOf_mem (mem_of_findColumn hf)]

theorem Over.groupKey_mem (h : r.Over s)
    : r.groupKey ∈ groupKeys s r.conventions := by
  unfold groupKey groupKeys
  split
  · cases hf : r.stationCandidate with
    | none => exact List.mem_cons_self
    | some m =>
        have counted := h.countingColumn_mem (mem_of_findColumn hf)
        exact List.mem_cons_of_mem _ (List.mem_map_of_mem counted)
  · exact List.mem_cons_self

/-- A query begins at the fact table, or else at the table of a candidate which is the only one
referred to and serves the needs of the question. -/
theorem startTable_cases (r : Reading) (referenced : List String)
    : r.startTable referenced = r.conventions.factTable
      ∨ ∃ m ∈ r.candidates, r.startTable referenced = m.table
        ∧ (∀ table ∈ referenced, table = m.table) ∧ r.needsWeather = false
        ∧ (r.needsStation = true → m.table = r.conventions.stationTable) := by
  cases ranked : r.candidates with
  | nil => exact Or.inl (startTable_of_unranked ranked)
  | cons first rest =>
      rcases startTable_of_ranked ranked with ⟨_, served, start⟩ | ⟨_, start⟩
      · exact Or.inr
          ⟨first, List.mem_cons_self, start, served.clauses, served.rain, served.station⟩
      · exact Or.inl start

/-- The source of a reading is one of the schema's: dimensions hang onto the fact table only. -/
theorem Over.source_mem (h : r.Over s) (referenced : List String)
    : r.source referenced ∈ sources s r.conventions := by
  unfold source sources
  dsimp only
  split
  · next fact =>
      refine List.mem_append_left _ (List.mem_map.mpr ⟨r.joins referenced, ?_, by rw [fact]⟩)
      refine List.mem_sublists.mpr ?_
      unfold joins
      dsimp only
      split <;> split <;> simp
  · next elsewhere =>
      rcases r.startTable_cases referenced with fact | ⟨m, hm, same, _⟩
      · exact absurd fact elsewhere
      · refine List.mem_append_right _ (List.mem_map.mpr ⟨m.table, h.table_mem hm, ?_⟩)
        rw [same]

/-- The conditions of a reading are some of the four, in their order. -/
theorem predicates_sublist (r : Reading)
    : (r.predicates.map fun p => p.segments.map Segment.erase).Sublist
        (conditions r.conventions) := by
  change List.Sublist _ ([_] ++ [_] ++ [_] ++ [_])
  rw [predicates, List.map_append, List.map_append, List.map_append]
  refine ((List.Sublist.append ?_ ?_).append ?_).append ?_
  · cases r.span with
    | none => exact List.nil_sublist _
    | some span => exact List.Sublist.refl _
  · cases r.gender? with
    | none => exact List.nil_sublist _
    | some gender => exact List.Sublist.refl _
  · split
    · exact List.Sublist.refl _
    · exact List.nil_sublist _
  · split
    · exact List.Sublist.refl _
    · exact List.nil_sublist _

/-- The values of a reading come from its period, its gender, rain and place, in this order. -/
theorem parameters_eq_boundValues (r : Reading)
    : r.predicates.flatMap Predicate.parameters
      = r.conventions.boundValues r.span r.gender? r.needsWeather r.namesLocation := by
  have period : (r.span.map (.startedWithin r.conventions.factStart)).toList.flatMap
      Predicate.parameters
        = r.span.toList.flatMap fun s => [.text s.first.literal, .text s.last.literal] := by
    cases r.span <;> rfl
  have riders : (r.gender?.map (.riderGender r.conventions.factGender)).toList.flatMap
      Predicate.parameters
        = r.gender?.toList.map fun g => .text g.text := by
    cases r.gender? <;> rfl
  rw [predicates, Conventions.boundValues, List.flatMap_append, List.flatMap_append,
    List.flatMap_append, period, riders]
  split <;> split <;> rfl

theorem map_erase_filterSegments (conditions : List (List (Segment Value)))
    : (filterSegments conditions).map Segment.erase
      = filterSegments (conditions.map (·.map Segment.erase)) := by
  cases conditions with
  | nil => rfl
  | cons condition rest =>
      have whole := map_erase_joined " AND " (condition :: rest)
      exact congrArg (Segment.words "WHERE " :: ·) whole

/-- The clauses of a reading without their values make one of the shapes over the schema. -/
theorem erase_segments (r : Reading)
    : r.plan.segments.map Segment.erase
      = shape r.projection (r.source r.referenced)
          (r.predicates.map fun p => p.segments.map Segment.erase) r.groupKey r.greatestOnly := by
  have same : r.plan.clauses.map (·.map Segment.erase)
      = [r.projection.segments.map Segment.erase,
         (r.source r.referenced).segments.map Segment.erase,
         filterSegments (r.predicates.map fun p => p.segments.map Segment.erase),
         (groupSegments r.groupKey).map Segment.erase,
         (orderSegments r.greatestOnly).map Segment.erase] := by
    simp [Plan.clauses, plan, map_erase_filterSegments, Function.comp_def]
  have kept : ((fun clause : List (Segment Unit) => !clause.isEmpty) ∘ (·.map Segment.erase))
      = fun clause : List (Segment Value) => !clause.isEmpty := by
    funext clause
    cases clause <;> rfl
  rw [Plan.segments, map_erase_joined, shape, ← same, List.filter_map, kept]

/-- The text of a reading is one of the possible texts over the schema. -/
theorem Over.text_mem (h : r.Over s)
    : write dollarMark r.plan.segments ∈ possibleTexts s r.conventions := by
  rw [write, ← writeFrom_erase, ← write, erase_segments]
  refine List.mem_flatMap.mpr ⟨_, h.projection_mem, ?_⟩
  refine List.mem_flatMap.mpr ⟨_, h.source_mem r.referenced, ?_⟩
  refine List.mem_flatMap.mpr ⟨_, List.mem_sublists.mpr r.predicates_sublist, ?_⟩
  refine List.mem_flatMap.mpr ⟨_, h.groupKey_mem, ?_⟩
  refine List.mem_map.mpr ⟨r.greatestOnly, ?_, rfl⟩
  cases r.greatestOnly <;> simp

end Reading

-----------------------------------------------------------------------------------------
-- Where the phrases of a text come from
-----------------------------------------------------------------------------------------

/-- The words of the query language that a text is made of. -/
def queryWords : List String :=
  [" ", "SELECT *", "SELECT COUNT(*) AS count", "SELECT ROUND(AVG(EXTRACT(EPOCH FROM (", " - ",
   ")) / 60)) AS average", "SELECT ROUND(CAST(SUM(", ") AS numeric), 1) AS total", "SELECT ",
   ", COUNT(*) AS count", " ON ", " = ", " ON DATE(", ") = ", "WHERE ", " AND ", " >= CAST(",
   " AS timestamp) AND ", " <= CAST(", " AS timestamp)", " > ", " ILIKE ", "GROUP BY ",
   "ORDER BY count DESC LIMIT 1"]

namespace Conventions

def tables (c : Conventions) : List String :=
  [c.factTable, c.stationTable, c.weatherTable]

/-- The columns that conventions name with their tables. -/
def columns (c : Conventions) : List ColumnRef :=
  [c.factStart, c.factEnd, c.factStation, c.factGender, c.stationId, c.stationName, c.weatherDay,
   c.precipitation]

/-- The table and column names of conventions. -/
def names (c : Conventions) : List String :=
  c.tables
    ++ [c.factStartColumn, c.factEndColumn, c.factStationKey, c.factGenderColumn, c.stationKey,
        c.stationNameColumn, c.weatherDateColumn, c.precipitationColumn]

end Conventions

/-- Every name that a text over a schema may have in it. -/
def vocabulary (s : Schema) (c : Conventions) : List String :=
  c.names ++ s.tableNames ++ s.columns.map Column.name

/-- A phrase is drawn from a schema and conventions when it is words of the query language or
names one of their tables or columns. -/
def Phrase.DrawnFrom (s : Schema) (c : Conventions) : Phrase → Prop
  | words text => text ∈ queryWords
  | start table => table ∈ c.tables ++ s.tableNames
  | join table => table ∈ c.tables
  | column ref => ref ∈ c.columns ++ s.columnRefs

/-- A column of conventions stands in one of their three tables and has one of their names. -/
theorem Conventions.names_of_mem_columns {c : Conventions} {ref : ColumnRef} (h : ref ∈ c.columns)
    : ref.table ∈ c.tables ∧ ref.column ∈ c.names := by
  simp only [columns, List.mem_cons, List.not_mem_nil, or_false] at h
  rcases h with rfl | rfl | rfl | rfl | rfl | rfl | rfl | rfl <;>
    simp [names, tables, factStart, factEnd, factStation, factGender, stationId, stationName,
      weatherDay, precipitation]

theorem names_of_mem_columnRefs {s : Schema} {ref : ColumnRef} (h : ref ∈ s.columnRefs)
    : ref.table ∈ s.tableNames ∧ ref.column ∈ s.columns.map Column.name := by
  obtain ⟨table, ht, h⟩ := List.mem_flatMap.mp h
  obtain ⟨column, hc, rfl⟩ := List.mem_map.mp h
  exact ⟨List.mem_map_of_mem ht,
    List.mem_map_of_mem (List.mem_flatMap.mpr ⟨table, ht, hc⟩)⟩

/-- A character that stands in no name and in no words stands in no phrase. -/
theorem Phrase.DrawnFrom.avoids {s : Schema} {c : Conventions} {phrase : Phrase} {ch : Char}
    (h : phrase.DrawnFrom s c)
    (named : ∀ name ∈ vocabulary s c, ch ∉ name.toList)
    (fixed : ∀ text ∈ "FROM " :: "LEFT JOIN " :: "." :: queryWords, ch ∉ text.toList)
    : phrase.Avoids ch := by
  simp only [vocabulary, List.mem_append, or_imp, forall_and] at named
  obtain ⟨⟨conventional, tables⟩, columns⟩ := named
  have own : ∀ table ∈ c.tables, ch ∉ table.toList := fun table member =>
    conventional table (List.mem_append_left _ member)
  cases phrase with
  | words text => exact fixed text (by simp [show text ∈ queryWords from h])
  | start table =>
      have opening := fixed "FROM " (by simp)
      have name : ch ∉ table.toList := by
        rcases List.mem_append.mp h with h | h
        · exact own table h
        · exact tables table h
      rw [Phrase.Avoids, Phrase.text, String.toList_append, List.mem_append, not_or]
      exact ⟨opening, name⟩
  | join table =>
      have opening := fixed "LEFT JOIN " (by simp)
      rw [Phrase.Avoids, Phrase.text, String.toList_append, List.mem_append, not_or]
      exact ⟨opening, own table h⟩
  | column ref =>
      have dot := fixed "." (by simp)
      have names : ch ∉ ref.table.toList ∧ ch ∉ ref.column.toList := by
        rcases List.mem_append.mp h with h | h
        · obtain ⟨ht, hc⟩ := Conventions.names_of_mem_columns h
          exact ⟨own _ ht, conventional _ hc⟩
        · obtain ⟨ht, hc⟩ := names_of_mem_columnRefs h
          exact ⟨tables _ ht, columns _ hc⟩
      rw [Phrase.Avoids, Phrase.text, ColumnRef.text, String.toList_append, String.toList_append,
        List.mem_append, List.mem_append, not_or, not_or]
      exact ⟨⟨names.1, dot⟩, names.2⟩

/-- The phrases of a projection over a schema are drawn from it, by its form. -/
theorem projection_drawn {s : Schema} {c : Conventions} {p : Projection} (h : p ∈ projections s c)
    : AllPhrases (Phrase.DrawnFrom s c) p.segments := by
  simp only [projections, List.mem_append, List.mem_cons, List.mem_map, List.not_mem_nil,
    or_false] at h
  rcases h with (((rfl | rfl | rfl) | ⟨ref, member, rfl⟩) | ⟨ref, member, rfl⟩) | ⟨ref, member, rfl⟩
  · simp [Projection.segments, Phrase.DrawnFrom, queryWords]
  · simp [Projection.segments, Phrase.DrawnFrom, queryWords]
  · simp [Projection.segments, Phrase.DrawnFrom, queryWords, Conventions.columns]
  · simp [Projection.segments, Phrase.DrawnFrom, queryWords, member]
  · rcases member with rfl | member
    · simp [Projection.segments, Phrase.DrawnFrom, queryWords, Conventions.columns]
    · simp [Projection.segments, Phrase.DrawnFrom, queryWords, member]
  · simp [Projection.segments, Phrase.DrawnFrom, queryWords, member]

/-- The phrases of a source over a schema are drawn from it. -/
theorem source_drawn {s : Schema} {c : Conventions} {source : Source} (h : source ∈ sources s c)
    : AllPhrases (Phrase.DrawnFrom s c) source.segments := by
  rw [sources, List.mem_append, List.mem_map, List.mem_map] at h
  rcases h with ⟨joins, chosen, rfl⟩ | ⟨table, member, rfl⟩
  · have joined_drawn : ∀ j ∈ joins, AllPhrases (Phrase.DrawnFrom s c) j.segments := by
      intro j hj
      have either := (List.mem_sublists.mp chosen).subset hj
      simp only [List.mem_cons, List.not_mem_nil, or_false] at either
      rcases either with rfl | rfl <;>
        simp [Join.segments, Phrase.DrawnFrom, queryWords, Conventions.columns, Conventions.tables,
          Conventions.stationId, Conventions.weatherDay]
    have fact : (Phrase.start c.factTable).DrawnFrom s c := by
      simp [Phrase.DrawnFrom, Conventions.tables]
    have blank : (Phrase.words " ").DrawnFrom s c := by simp [Phrase.DrawnFrom, queryWords]
    rw [Source.segments, allPhrases_joined blank, List.forall_mem_cons, List.forall_mem_map]
    exact ⟨by simpa using fact, joined_drawn⟩
  · have named : (Phrase.start table).DrawnFrom s c := List.mem_append_right _ member
    simpa [Source.segments] using named

/-- The phrases of the four conditions are drawn from the conventions. -/
theorem conditions_drawn {s : Schema} {c : Conventions} {condition : List (Segment Unit)}
    (h : condition ∈ conditions c)
    : AllPhrases (Phrase.DrawnFrom s c) condition := by
  simp only [conditions, List.mem_cons, List.not_mem_nil, or_false] at h
  rcases h with rfl | rfl | rfl | rfl <;>
    simp [Phrase.DrawnFrom, queryWords, Conventions.columns]

/-- Every phrase of a reading's text is drawn from the schema and the conventions, by the clauses
that it can have. -/
theorem Reading.Over.segments_drawn {r : Reading} {s : Schema} (h : r.Over s)
    : AllPhrases (Phrase.DrawnFrom s r.conventions) r.plan.segments := by
  have words {text : String} (member : text ∈ queryWords)
      : (Phrase.words text).DrawnFrom s r.conventions := member
  rw [Plan.allPhrases_segments (words (by decide))]
  intro clause member
  simp only [Plan.clauses, List.mem_cons, List.not_mem_nil, or_false] at member
  rcases member with rfl | rfl | rfl | rfl | rfl
  · exact projection_drawn h.projection_mem
  · exact source_drawn (h.source_mem r.referenced)
  · rw [allPhrases_filterSegments (words (by decide)) (words (by decide)), List.forall_mem_map]
    intro p hp
    have shape : p.segments.map Segment.erase ∈ conditions r.conventions :=
      r.predicates_sublist.subset (List.mem_map_of_mem hp)
    exact (allPhrases_erase _ _).mp (conditions_drawn shape)
  · have key := h.groupKey_mem
    rw [groupKeys, List.mem_cons, List.mem_map] at key
    rcases key with absent | ⟨ref, member, present⟩
    · rw [show r.plan.groupKey = none from absent]
      exact allPhrases_nil _
    · rw [show r.plan.groupKey = some ref from present.symm]
      rcases List.mem_cons.mp member with rfl | member
      · simp [groupSegments, Phrase.DrawnFrom, queryWords, Conventions.columns]
      · simp [groupSegments, Phrase.DrawnFrom, queryWords, member]
  · cases r.plan.greatestOnly with
    | false => exact allPhrases_nil _
    | true => simp [orderSegments, Phrase.DrawnFrom, queryWords]

/-- A character that stands in no name and in no words stands in none of a reading's phrases. -/
theorem Reading.Over.segments_avoid {r : Reading} {s : Schema} (h : r.Over s) {ch : Char}
    (named : ∀ name ∈ vocabulary s r.conventions, ch ∉ name.toList)
    (fixed : ∀ text ∈ "FROM " :: "LEFT JOIN " :: "." :: queryWords, ch ∉ text.toList)
    : AllPhrases (Phrase.Avoids ch) r.plan.segments := by
  intro phrase member
  exact (h.segments_drawn phrase member).avoids named fixed

-----------------------------------------------------------------------------------------
-- Compiled queries
-----------------------------------------------------------------------------------------

namespace Compiler

/-- Names without open marks leave only one reason not to compile a question, a date phrase that
has no date. -/
theorem exists_compiled_iff (config : CompilerConfig) (calls : List Call) (question : String)
    (now : Instant)
    (plain : ∀ name ∈ vocabulary (latestSchema calls) config.conventions, marker ∉ name.toList)
    : (∃ q, (((new config).after calls).compile question now).1 = .ok q)
      ↔ ∃ span, Question.span? question now config.referenceYear = .ok span := by
  constructor
  · rintro ⟨q, compiled⟩
    obtain ⟨r, read, _⟩ := compiled_written compiled
    obtain ⟨span, dated, _⟩ := reading_ok_iff.mp read
    exact ⟨span, dated⟩
  · rintro ⟨span, dated⟩
    rw [((standsAt_new config).after calls).compile_fst]
    obtain ⟨r, read⟩ : ∃ r, reading config question
        (rankingOf config (latestSchema calls) question) now = .ok r :=
      ⟨_, reading_ok_iff.mpr ⟨span, dated, rfl⟩⟩
    obtain ⟨_, same, conventions⟩ := reading_keeps read
    have onSchema : r.Over (latestSchema calls) := fun m hm => Matching.mem_rank (same ▸ hm)
    have avoided := onSchema.segments_avoid (conventions ▸ plain) (by decide)
    have rendered := (r.plan.render_ok_iff _ _).mpr ⟨avoided, rfl, rfl⟩
    obtain ⟨q, made⟩ : ∃ q, ofReading r = .ok q := by
      rw [ofReading, rendered]
      exact ⟨_, rfl⟩
    exact ⟨q, bind_eq_ok_iff.mpr ⟨r, read, made⟩⟩

/-- No text of a question reaches the query: whatever the question and the instant, a compiled text
is one of the finitely many that the schema and the conventions allow, and its values are at most
two timestamps, a gender, zero and the pattern of the conventions, in this order. -/
theorem compiled_text_mem (config : CompilerConfig) (calls : List Call)
    (question : String) (now : Instant) (q : CompiledQuery)
    (compiled : (((new config).after calls).compile question now).1 = .ok q)
    : q.text ∈ possibleTexts (latestSchema calls) config.conventions
      ∧ ∃ span gender rain place,
        q.parameters = config.conventions.boundValues span gender rain place := by
  obtain ⟨r, read, onSchema, _, _, text, values⟩ := compiled_written compiled
  rw [text, values, Plan.valuesOf_segments, ← (reading_keeps read).2.2]
  exact ⟨onSchema.text_mem, r.span, r.gender?, r.needsWeather, r.namesLocation,
    r.parameters_eq_boundValues⟩

/-- A schema of rides and of the stations between which they go. -/
def rideSchema : Schema :=
  .ofListing
    [("trips", [("started_at", "timestamp"), ("distance_km", "numeric")]),
     ("stations", [("station_name", "text")])]

/-- An instant in the middle of a year. -/
def midyear : Instant :=
  ⟨⟨2025, 7, 1, by decide, by decide, by decide, by decide, by decide, by decide⟩, .startOfDay⟩

/-- A question that is a statement itself is compiled to a text of the schema. -/
theorem compiled_text_mem_dropTable
    : ∃ q, (((new {}).after [.publish rideSchema]).compile "drop table trips; --" midyear).1
          = .ok q
        ∧ q.text ∈ possibleTexts rideSchema {} := by
  obtain ⟨q, compiled⟩ := (exists_compiled_iff {} [.publish rideSchema] "drop table trips; --"
    midyear (by decide)).mpr ⟨none, rfl⟩
  exact ⟨q, compiled, (compiled_text_mem {} [.publish rideSchema] _ midyear q compiled).1⟩

end Compiler

end Query

end RideQuestions
