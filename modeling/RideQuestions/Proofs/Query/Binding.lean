import RideQuestions.Proofs.Query.Vocabulary

/-! Every bound value reaches its own predicate. The placeholders of a compiled text are numbered
one to n, each stands in the predicate that its value belongs to, and the named statement keeps it.
-/

namespace RideQuestions.Query

open RideQuestions.Calendar

-----------------------------------------------------------------------------------------
-- Placeholders are apart from what follows
-----------------------------------------------------------------------------------------

variable {α : Type}

/-- Segments without bound values are spaced. -/
theorem spaced_of_valuesOf_eq_nil {segments : List (Segment α)} (h : valuesOf segments = [])
    : Spaced segments := by
  induction segments with
  | nil => simp
  | cons segment rest ih =>
      cases segment with
      | fixed phrase => exact (spaced_fixed phrase rest).mpr (ih h)
      | bound value => simp at h

/-- Inside a predicate a blank stands behind each value but the last, by its form. -/
theorem Predicate.spaced_segments (p : Predicate)
    : Spaced p.segments := by
  cases p <;> simp [Predicate.segments, Spaced, Segment.Apart, Phrase.text]

/-- A plan is spaced: conditions and clauses are joined by words that begin with a blank. -/
theorem Plan.spaced_segments (p : Plan)
    : Spaced p.segments := by
  refine spaced_joined rfl ?_
  intro clause member
  have member := (List.mem_filter.mp member).1
  simp only [Plan.clauses, List.mem_cons, List.not_mem_nil, or_false] at member
  rcases member with rfl | rfl | rfl | rfl | rfl
  · exact spaced_of_valuesOf_eq_nil (by cases p.projection <;> rfl)
  · exact spaced_of_valuesOf_eq_nil p.source.valuesOf_segments
  · cases p.predicates with
    | nil => exact spaced_nil
    | cons first rest =>
        refine (spaced_fixed _ _).mpr (spaced_joined rfl ?_)
        intro condition hc
        obtain ⟨predicate, _, rfl⟩ := List.mem_map.mp hc
        exact predicate.spaced_segments
  · exact spaced_of_valuesOf_eq_nil (by cases p.groupKey <;> rfl)
  · exact spaced_of_valuesOf_eq_nil (by cases p.greatestOnly <;> rfl)

-----------------------------------------------------------------------------------------
-- Each predicate and its values
-----------------------------------------------------------------------------------------

/-- A list of segments stands whole in the joined ones, behind the values of the lists before it,
by induction over these. -/
theorem joined_at (separator : String) (earlier : List (List (Segment α)))
    (segments : List (Segment α)) (later : List (List (Segment α)))
    : ∃ before behind,
      joined separator (earlier ++ segments :: later) = before ++ segments ++ behind
      ∧ valuesOf before = earlier.flatMap valuesOf := by
  induction earlier with
  | nil =>
      cases later with
      | nil => exact ⟨[], [], by simp, rfl⟩
      | cons next later =>
          exact ⟨[], .words separator :: joined separator (next :: later), by simp, rfl⟩
  | cons first rest ih =>
      obtain ⟨before, behind, whole, values⟩ := ih
      refine ⟨first ++ .words separator :: before, behind, ?_, by simp [values]⟩
      obtain ⟨second, others, next⟩ : ∃ second others,
          rest ++ segments :: later = second :: others :=
        List.exists_cons_of_ne_nil (by simp)
      rw [List.cons_append, next, joined_cons_cons, ← next, whole]
      simp

/-- The segments of a predicate stand whole in its plan, behind the values of the predicates before
it: neither the projection nor the source has any. -/
theorem Plan.segments_at {p : Plan} {earlier later : List Predicate} {predicate : Predicate}
    (h : p.predicates = earlier ++ predicate :: later)
    : ∃ before behind, p.segments = before ++ predicate.segments ++ behind
      ∧ valuesOf before = earlier.flatMap Predicate.parameters := by
  obtain ⟨opening, closing, condition, values⟩ := joined_at " AND "
    (earlier.map Predicate.segments) predicate.segments (later.map Predicate.segments)
  have filter : filterSegments (p.predicates.map Predicate.segments)
      = .words "WHERE " :: opening ++ predicate.segments ++ closing := by
    rw [h, List.map_append, List.map_cons, filterSegments, if_neg (by simp), condition]
    simp
  have clauses : p.clauses.filter (fun clause => !clause.isEmpty)
      = [p.projection.segments, p.source.segments].filter (fun clause => !clause.isEmpty)
        ++ (.words "WHERE " :: opening ++ predicate.segments ++ closing)
        :: [groupSegments p.groupKey, orderSegments p.greatestOnly].filter
          fun clause => !clause.isEmpty := by
    rw [Plan.clauses, filter]
    exact List.filter_append [p.projection.segments, p.source.segments] _
  obtain ⟨before, behind, whole, none⟩ := joined_at " "
    ([p.projection.segments, p.source.segments].filter fun clause => !clause.isEmpty)
    (.words "WHERE " :: opening ++ predicate.segments ++ closing)
    ([groupSegments p.groupKey, orderSegments p.greatestOnly].filter fun clause => !clause.isEmpty)
  refine ⟨before ++ .words "WHERE " :: opening, closing ++ behind, ?_, ?_⟩
  · rw [Plan.segments, clauses, whole]
    simp
  · have valueless : valuesOf before = [] := by
      rw [none]
      refine List.flatMap_eq_nil_iff.mpr ?_
      intro clause member
      have either := (List.mem_filter.mp member).1
      simp only [List.mem_cons, List.not_mem_nil, or_false] at either
      rcases either with rfl | rfl
      · cases p.projection <;> rfl
      · exact p.source.valuesOf_segments
    rw [valuesOf_append, valueless, valuesOf_fixed, values, List.flatMap_map]
    simp only [Predicate.valuesOf_segments, List.nil_append]

/-- A predicate stands in a compiled query between others when its segments stand whole in the text,
numbered on from the values of the predicates before it, and its values have the same place among
the values of the query. -/
def Predicate.StandsIn (p : Predicate) (q : CompiledQuery) (earlier later : List Predicate)
    : Prop :=
  ∃ before behind : List (Segment Value),
    q.text
        = String.ofList
            (writeFrom dollarMark 0 before
              ++ writeFrom dollarMark (earlier.flatMap parameters).length p.segments
              ++ writeFrom dollarMark ((earlier ++ [p]).flatMap parameters).length behind)
      ∧ valuesOf before = earlier.flatMap parameters
      ∧ valuesOf p.segments = p.parameters
      ∧ valuesOf behind = later.flatMap parameters
      ∧ q.parameters
        = earlier.flatMap parameters ++ p.parameters ++ later.flatMap parameters

/-- Each predicate of a plan stands in a query that has the plan's numbered text and values. -/
theorem Plan.standsIn {p : Plan} {q : CompiledQuery} (text : q.text = write dollarMark p.segments)
    (values : q.parameters = valuesOf p.segments) {earlier later : List Predicate}
    {predicate : Predicate} (h : p.predicates = earlier ++ predicate :: later)
    : predicate.StandsIn q earlier later := by
  obtain ⟨before, behind, whole, counted⟩ := p.segments_at h
  have parameters : q.parameters
      = earlier.flatMap Predicate.parameters ++ predicate.parameters
        ++ later.flatMap Predicate.parameters := by
    rw [values, p.valuesOf_segments, h, List.flatMap_append, List.flatMap_cons, List.append_assoc]
  have rest : valuesOf behind = later.flatMap Predicate.parameters := by
    rw [values, whole, valuesOf_append, valuesOf_append, counted, predicate.valuesOf_segments]
      at parameters
    exact List.append_cancel_left parameters
  refine ⟨before, behind, ?_, counted, predicate.valuesOf_segments, rest, parameters⟩
  rw [text, whole, write, writeFrom_append, writeFrom_append, valuesOf_append, counted,
    predicate.valuesOf_segments, Nat.zero_add, Nat.zero_add, List.flatMap_append,
    List.flatMap_singleton]

/-- The binds of a statement are its values under the names p1, p2 and so on, by induction. -/
theorem binds_eq_zip (text : String) (values : List Value)
    : (toNamedBinds text values).binds
      = ((List.range' 1 values.length).map bindName).zip values := by
  suffices h : ∀ start,
      (values.zipIdx start).map (fun entry => ("p" ++ toString (entry.2 + 1), entry.1))
        = ((List.range' (start + 1) values.length).map bindName).zip values from h 0
  induction values with
  | nil => simp
  | cons value rest ih =>
      intro start
      rw [List.zipIdx_cons, List.map_cons, ih, List.length_cons, List.range'_succ]
      rfl

-----------------------------------------------------------------------------------------
-- Compiled queries
-----------------------------------------------------------------------------------------

/-- Names without dollars and colons leave a compiled text with no other placeholders than those
of its values: they are numbered one to n, the one with the number of a value stands in the
predicate that holds the value, and the named statement has the same text with each name once.
A name with an open mark needs no exclusion, since no query with it is compiled. -/
theorem Compiler.compiled_placeholders (config : CompilerConfig) (calls : List Call)
    (question : String) (now : Instant) (q : CompiledQuery)
    (plain : ∀ name ∈ vocabulary (latestSchema calls) config.conventions,
      '$' ∉ name.toList ∧ ':' ∉ name.toList)
    (compiled : (((new config).after calls).compile question now).1 = .ok q)
    : ordinals q.text = List.range' 1 q.parameters.length
      ∧ (∃ r, reading config question q.candidates now = .ok r
        ∧ q.text = write dollarMark r.plan.segments
        ∧ q.parameters
          = config.conventions.boundValues r.span r.gender? r.needsWeather r.namesLocation
        ∧ (∀ earlier p later, r.predicates = earlier ++ p :: later → p.StandsIn q earlier later)
        ∧ (toNamedBinds q.text q.parameters).text = write colonMark r.plan.segments)
      ∧ (bindNames (toNamedBinds q.text q.parameters).text.toList).map String.ofList
        = (List.range' 1 q.parameters.length).map bindName
      ∧ (toNamedBinds q.text q.parameters).binds
        = ((List.range' 1 q.parameters.length).map bindName).zip q.parameters := by
  obtain ⟨r, read, onSchema, _, _, text, values⟩ := compiled_written compiled
  have conventions := (reading_keeps read).2.2
  have spaced := r.plan.spaced_segments
  rw [← conventions] at plain
  have dollars := onSchema.segments_avoid (fun name hn => (plain name hn).1) (by decide)
  have colons := onSchema.segments_avoid (fun name hn => (plain name hn).2) (by decide)
  have named := toNamedBinds_write dollars spaced q.parameters
  rw [← text] at named
  refine ⟨?_, ⟨r, read, text, ?_, ?_, named⟩, ?_, binds_eq_zip q.text q.parameters⟩
  · rw [text, values, ordinals_write dollars spaced]
  · rw [values, Plan.valuesOf_segments, ← conventions]
    exact r.parameters_eq_boundValues
  · intro earlier p later split
    exact Plan.standsIn text values split
  · rw [named, write, String.toList_ofList, bindNames_writeFrom colons spaced, values]

/-- A question about a month, women and rain has its four values at four numbers. -/
theorem Compiler.compiled_placeholders_four
    : ∃ (q : CompiledQuery) (span : Span), (((new {}).after [.publish rideSchema]).compile
          "rides of women in the rain in june 2025" midyear).1 = .ok q
        ∧ ordinals q.text = [1, 2, 3, 4]
        ∧ q.parameters
          = [.text span.first.literal, .text span.last.literal, .text "female", .int 0] := by
  obtain ⟨span, dated⟩ : ∃ span,
      Question.span? "rides of women in the rain in june 2025" midyear 2025 = .ok (some span) :=
    ⟨_, rfl⟩
  obtain ⟨q, compiled⟩ :=
    (exists_compiled_iff {} [.publish rideSchema] _ midyear (by decide)).mpr ⟨_, dated⟩
  obtain ⟨numbers, ⟨r, read, _, values, _⟩, _⟩ :=
    compiled_placeholders {} [.publish rideSchema] _ midyear q (by decide) compiled
  have asked := (reading_keeps read).1
  have period : r.span = some span := by
    obtain ⟨found, same, rfl⟩ := reading_ok_iff.mp read
    exact Except.ok.inj (same.symm.trans dated)
  have women : r.gender? = some .female := by
    rw [Reading.gender?, asked]
    decide +kernel
  have rain : r.needsWeather = true := by
    rw [Reading.needsWeather, Reading.lowered, asked]
    decide +kernel
  have nowhere : r.namesLocation = false := by
    rw [Reading.namesLocation, Reading.lowered, asked]
    decide +kernel
  rw [period, women, rain, nowhere] at values
  refine ⟨q, span, compiled, ?_, values⟩
  rw [numbers, values]
  rfl

end RideQuestions.Query
