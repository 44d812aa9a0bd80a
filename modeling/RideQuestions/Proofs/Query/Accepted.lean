import Mathlib.Data.Nat.Digits.Defs
import RideQuestions.Proofs.Query.Naming
import RideQuestions.Proofs.Query.Size
import RideQuestions.Proofs.Sql.Acceptance

/-! The guard lets every compiled query through. Its text is calm and begins with the word of a
reading query, it has few tokens, and its placeholders are those of its values.
-/

namespace RideQuestions.Query

open RideQuestions.Calendar RideQuestions.Text Sql

-----------------------------------------------------------------------------------------
-- The text of a plan
-----------------------------------------------------------------------------------------

/-- Behind its projection a plan has clauses, with a blank before each. -/
theorem Plan.segments_eq (p : Plan)
    : p.segments = p.projection.segments ++ .words " "
      :: joined " " (p.source.segments
        :: [filterSegments (p.predicates.map Predicate.segments), groupSegments p.groupKey,
            orderSegments p.greatestOnly].filter fun clause => !clause.isEmpty) := by
  have projection : p.projection.segments.isEmpty = false := by cases p.projection <;> rfl
  have source : p.source.segments.isEmpty = false := by rw [Source.segments_eq]; rfl
  rw [segments, clauses, List.filter_cons_of_pos (by simp [projection]),
    List.filter_cons_of_pos (by simp [source]), joined_cons_cons]

/-- Over plain names, a clause behind the projection settles if it is there. -/
theorem Plan.settles_clauses {p : Plan}
    (plain : ∀ clause ∈ p.clauses, AllPhrases Phrase.Plain clause)
    : ∀ clause ∈ p.clauses.tail, clause = [] ∨ Settles clause := by
  simp only [clauses, List.forall_mem_cons, List.tail_cons] at plain ⊢
  obtain ⟨-, source, filter, group, -⟩ := plain
  refine ⟨.inr (Source.settles source), ?_, ?_, ?_, by simp⟩
  · by_cases absent : p.predicates = []
    · exact .inl (by rw [absent]; rfl)
    · rw [allPhrases_filterSegments trivial trivial, List.forall_mem_map] at filter
      exact .inr (settles_filterSegments absent filter)
  · cases key : p.groupKey with
    | none => exact .inl rfl
    | some ref =>
        rw [key] at group
        exact .inr (settles_groupSegments (group (.column ref) (by simp [groupSegments])))
  · cases p.greatestOnly with
    | false => exact .inl rfl
    | true => exact .inr settles_orderSegments

/-- A plan over plain names comes to where its text may end. -/
theorem Plan.calmBehind_segments {p : Plan} (plain : AllPhrases Phrase.Plain p.segments)
    : ∃ mark word,
      calmBehind none [] (writeFrom dollarMark 0 p.segments) = some (mark, word)
        ∧ Settled mark word := by
  have clausewise := (allPhrases_segments trivial p).mp plain
  have projection : AllPhrases Phrase.Plain p.projection.segments :=
    clausewise _ List.mem_cons_self
  have there : p.source.segments ≠ [] := by simp [Source.segments_eq]
  obtain ⟨mark, word, comes, closed⟩ := Projection.closed_segments projection 0
  have settles := settles_clauses clausewise
  rw [clauses, List.tail_cons, List.forall_mem_cons] at settles
  rw [segments_eq, writeFrom_append, calmBehind_fixed comes, writeFrom, Phrase.text,
    calmBehind_words " " ' ' [] closed (by decide)]
  refine settles_joined (by decide) ?_ (by simp) _
  intro clause member
  rcases List.mem_cons.mp member with rfl | member
  · exact settles.1.resolve_left there
  · obtain ⟨member, present⟩ := List.mem_filter.mp member
    exact (settles.2 clause member).resolve_left (by simpa using present)

/-- A plain name begins with a character that is neither a blank nor a point. -/
theorem PlainColumn.begins {ref : ColumnRef} (h : PlainColumn ref)
    : ∃ c more, ref.text.toList = c :: more ∧ isBlank c = false ∧ c ≠ '.' := by
  have noBlank : ∀ c ∈ plainCharacters, isWord c = true → isBlank c = false ∧ c ≠ '.' := by decide
  obtain ⟨c, more, letters⟩ := List.exists_cons_of_ne_nil (ne_nil_of_isPlainName h.table.name)
  obtain ⟨member, inside⟩ := mem_plain_of_isPlainName h.table.name c (by simp [letters])
  refine ⟨c, more ++ '.' :: ref.column.toList, ?_, noBlank c member inside⟩
  simp [ColumnRef.text, letters]

/-- A projection over plain names begins with the word of a reading query, and neither a blank nor a
point stands behind the blank that follows it. -/
theorem Projection.selecting_segments {p : Projection} (plain : AllPhrases Phrase.Plain p.segments)
    (count : Nat) (rest : List (Segment Value))
    : ∃ c more, writeFrom dollarMark count (p.segments ++ rest) = selecting (c :: more)
      ∧ isBlank c = false ∧ c ≠ '.' := by
  have column {ref : ColumnRef} (named : PlainColumn ref) (rest : List Char)
      : ∃ c more, "SELECT ".toList ++ (ref.text.toList ++ rest) = selecting (c :: more)
        ∧ isBlank c = false ∧ c ≠ '.' := by
    obtain ⟨c, more, letters, fits⟩ := named.begins
    exact ⟨c, more ++ rest, by rw [letters]; rfl, fits⟩
  cases p with
  | everything => exact ⟨'*', _, rfl, by decide⟩
  | count => exact ⟨'C', _, rfl, by decide⟩
  | averageMinutes start finish => exact ⟨'R', _, rfl, by decide⟩
  | sum ref => exact ⟨'R', _, rfl, by decide⟩
  | countPer ref => exact column (plain (.column ref) (by simp [segments])) _
  | values ref => exact column (plain (.column ref) (by simp [segments])) _

/-- The placeholders of a plan with few values fit these: their numbers are short. -/
theorem Plan.placeholderComplaints_write {p : Plan}
    (undollared : AllPhrases (Phrase.Avoids '$') p.segments)
    (few : (valuesOf p.segments).length ≤ 100)
    : placeholderComplaints (write dollarMark p.segments) (valuesOf p.segments).length
      = .ok [] := by
  rw [placeholderComplaints_eq_nil_iff]
  refine ⟨ordinals_write undollared p.spaced_segments, fun digits member => ?_⟩
  rw [placeholders_write undollared p.spaced_segments, List.mem_map] at member
  obtain ⟨n, counted, rfl⟩ := member
  have least := (List.mem_range'_1.mp counted).2
  exact (Nat.toDigits_length 10 n 3 (by decide) (by omega)).trans (by decide)

/-- The guard lets a plan over plain names through, written with numbers for its values: its text is
one reading statement, and nothing is wrong with it. -/
theorem Plan.inspect_write (grouping : Grouping) {p : Plan}
    (plain : AllPhrases Phrase.Plain p.segments)
    (undollared : AllPhrases (Phrase.Avoids '$') p.segments)
    (few : ∀ blanks, beginningsOf blanks p.segments ≤ 100 + 100 * blanks.toNat)
    : inspect (write dollarMark p.segments) (some (valuesOf p.segments).length) true grouping
      = .ok { complaints := [], separatorInside := false, type? := some "SELECT" } := by
  have letters : (write dollarMark p.segments).toList = writeFrom dollarMark 0 p.segments :=
    String.toList_ofList
  obtain ⟨mark, word, comes, settled⟩ := calmBehind_segments plain
  have projection : AllPhrases Phrase.Plain p.projection.segments :=
    (allPhrases_segments trivial p).mp plain _ List.mem_cons_self
  obtain ⟨c, rest, begins, noBlank, noPoint⟩ :=
    Projection.selecting_segments projection 0 (.words " " :: _)
  rw [← segments_eq, ← letters] at begins
  rw [← letters] at comes
  have size (blanks : Bool) : Sql.beginnings blanks none (write dollarMark p.segments).toList
      ≤ 100 + 100 * blanks.toNat := by
    rw [letters]
    exact (beginnings_writeFrom_le plain 0).trans (few blanks)
  refine inspect_of_calm grouping (calm_of_calmBehind comes settled.ends) begins noBlank noPoint ?_
    (size false) ((size true).trans (by decide)) ?_
  · have last := getLast?_of_calmBehind comes
    rw [List.getLast?_nil, Option.or_none, Option.or_none] at last
    rw [last]
    exact settled.last
  · have values := (length_valuesOf_le p.segments).trans (few false)
    rw [bindingComplaints, placeholderComplaints_write undollared values]
    rfl

-----------------------------------------------------------------------------------------
-- Compiled queries
-----------------------------------------------------------------------------------------

/-- Plain names make a phrase plain that is drawn from them, if no table has a forbidden word for
its name. -/
theorem Phrase.DrawnFrom.plain {s : Schema} {c : Conventions} {phrase : Phrase}
    (h : phrase.DrawnFrom s c) (named : ∀ name ∈ vocabulary s c, isPlainName name.toList = true)
    (allowed : ∀ table ∈ c.tables ++ s.tableNames, isForbidden table.toList = false)
    : phrase.Plain := by
  simp only [vocabulary, List.mem_append, or_imp, forall_and] at named allowed
  obtain ⟨⟨conventional, tables⟩, columns⟩ := named
  have own : ∀ table ∈ c.tables, PlainTable table := fun table member =>
    ⟨conventional table (List.mem_append_left _ member), allowed.1 table member⟩
  have theirs : ∀ table ∈ s.tableNames, PlainTable table := fun table member =>
    ⟨tables table member, allowed.2 table member⟩
  cases phrase with
  | words text => trivial
  | start table => exact (List.mem_append.mp h).elim (own table) (theirs table)
  | join table => exact own table h
  | column ref =>
      rcases List.mem_append.mp h with h | h
      · obtain ⟨ht, hc⟩ := Conventions.names_of_mem_columns h
        exact ⟨own _ ht, conventional _ hc⟩
      · obtain ⟨ht, hc⟩ := names_of_mem_columnRefs h
        exact ⟨theirs _ ht, columns _ hc⟩

namespace Compiler

/-- The guard's verdict on a query compiled from plain names. -/
theorem inspect_compiled (grouping : Grouping) {config : CompilerConfig} {calls : List Call}
    {question : String} {now : Instant} {q : CompiledQuery}
    (named : ∀ name ∈ vocabulary (latestSchema calls) config.conventions,
      isPlainName name.toList = true)
    (allowed : ∀ table ∈ config.conventions.tables ++ (latestSchema calls).tableNames,
      isForbidden table.toList = false)
    (compiled : (((new config).after calls).compile question now).1 = .ok q)
    : inspect q.text (some q.parameters.length) true grouping
      = .ok { complaints := [], separatorInside := false, type? := some "SELECT" } := by
  obtain ⟨r, read, onSchema, _, _, text, values⟩ := compiled_written compiled
  have conventions := (reading_keeps read).2.2
  rw [← conventions] at named allowed
  have plain : AllPhrases Phrase.Plain r.plan.segments := fun phrase member =>
    (onSchema.segments_drawn phrase member).plain named allowed
  have undollared : AllPhrases (Phrase.Avoids '$') r.plan.segments :=
    onSchema.segments_avoid (fun name member inside =>
      absurd (mem_plain_of_isPlainName (named name member) _ inside).2 (by decide)) (by decide)
  rw [text, values]
  exact Plan.inspect_write grouping plain undollared r.beginnings_plan_le

/-- The guard never refuses a compiled query. Over a schema and conventions with plain names, none
of whose tables has a dangerous word for its name or one that separates batches, letter case aside,
every compiled text is a valid reading statement, with no errors and no warnings, and its
placeholders fit its values, in whatever way its tokens are grouped. Columns may have any plain
name. -/
theorem compiled_accepted (grouping : Grouping) (config : CompilerConfig) (calls : List Call)
    (question : String) (now : Instant) (q : CompiledQuery)
    (named : ∀ name ∈ vocabulary (latestSchema calls) config.conventions,
      isPlainName name.toList = true)
    (tables : ∀ table ∈ config.conventions.tables ++ (latestSchema calls).tableNames,
      plainUpper table ∉ "GO" :: dangerousWords)
    (compiled : (((new config).after calls).compile question now).1 = .ok q)
    : ∃ verdict, inspect q.text (some q.parameters.length) true grouping = .ok verdict
      ∧ verdict.isValid = true ∧ verdict.errors = [] ∧ verdict.warnings = []
      ∧ verdict.type? = some "SELECT" := by
  have allowed : ∀ table ∈ config.conventions.tables ++ (latestSchema calls).tableNames,
      isForbidden table.toList = false := by
    intro table member
    rw [isForbidden, String.ofList_toList, ← Bool.not_eq_true, List.contains_iff_mem]
    exact tables table member
  exact ⟨_, inspect_compiled grouping named allowed compiled, rfl, rfl, rfl, rfl⟩

/-- Rides that start at a column named like a dangerous word are let through. -/
theorem compiled_accepted_update
    : ∃ q verdict,
        (((new { conventions := { factStartColumn := "update" } }).after
            [.publish rideSchema]).compile "rides in june 2025" midyear).1 = .ok q
          ∧ inspect q.text (some q.parameters.length) true = .ok verdict
          ∧ verdict.isValid = true ∧ verdict.errors = [] ∧ verdict.warnings = []
          ∧ verdict.type? = some "SELECT" := by
  obtain ⟨q, compiled⟩ :=
    (exists_compiled_iff { conventions := { factStartColumn := "update" } } [.publish rideSchema]
      "rides in june 2025" midyear (by decide)).mpr ⟨_, rfl⟩
  obtain ⟨verdict, accepted⟩ :=
    compiled_accepted .pairs { conventions := { factStartColumn := "update" } } [.publish rideSchema] _
      midyear q (by decide) (by decide) compiled
  exact ⟨q, verdict, compiled, accepted⟩

end Compiler

end RideQuestions.Query
