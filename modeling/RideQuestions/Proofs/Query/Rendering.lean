import RideQuestions.Proofs.Outcome
import RideQuestions.Proofs.Query.Numbering
import RideQuestions.Query.Compiler

/-! The segments of a plan. A plan can be written exactly when none of its phrases holds a mark,
and then its text is its numbered segments and its values are theirs.
-/

namespace RideQuestions.Query

-----------------------------------------------------------------------------------------
-- The segments of each clause
-----------------------------------------------------------------------------------------

namespace Projection

def segments : Projection → List (Segment Value)
  | everything => [.words "SELECT *"]
  | count => [.words "SELECT COUNT(*) AS count"]
  | averageMinutes start finish =>
      [.words "SELECT ROUND(AVG(EXTRACT(EPOCH FROM (", .column finish, .words " - ",
       .column start, .words ")) / 60)) AS average"]
  | sum column =>
      [.words "SELECT ROUND(CAST(SUM(", .column column, .words ") AS numeric), 1) AS total"]
  | countPer column => [.words "SELECT ", .column column, .words ", COUNT(*) AS count"]
  | values column => [.words "SELECT ", .column column]

theorem openText_segments (p : Projection)
    : openText p.segments = p.text := by
  unfold segments text
  cases p <;>
    simp only [openText_fixed, openText_nil, Phrase.text, String.append_assoc, String.append_empty]

end Projection

namespace Predicate

/-- A predicate with its values in their places. -/
def segments : Predicate → List (Segment Value)
  | startedWithin start span =>
      [.column start, .words " >= CAST(", .bound (.text span.first.literal),
       .words " AS timestamp) AND ", .column start, .words " <= CAST(",
       .bound (.text span.last.literal), .words " AS timestamp)"]
  | riderGender column gender => [.column column, .words " = ", .bound (.text gender.text)]
  | someRain precipitation => [.column precipitation, .words " > ", .bound (.int 0)]
  | atLocation name pattern => [.column name, .words " ILIKE ", .bound (.text pattern)]

theorem openText_segments (p : Predicate)
    : openText p.segments = p.text := by
  have first : " >= CAST(? AS timestamp) AND "
      = " >= CAST(" ++ ("?" ++ " AS timestamp) AND ") := rfl
  have last : " <= CAST(? AS timestamp)" = " <= CAST(" ++ ("?" ++ " AS timestamp)") := rfl
  have equal : " = ?" = " = " ++ "?" := rfl
  have more : " > ?" = " > " ++ "?" := rfl
  have like : " ILIKE ?" = " ILIKE " ++ "?" := rfl
  cases p <;>
    simp only [segments, text, openText_fixed, openText_bound, openText_nil, Phrase.text, first,
      last, equal, more, like, String.append_assoc, String.append_empty]

theorem valuesOf_segments (p : Predicate)
    : valuesOf p.segments = p.parameters := by
  cases p <;> rfl

end Predicate

/-- Some conditions as one clause, or no segments without conditions. -/
def filterSegments {α : Type} (conditions : List (List (Segment α))) : List (Segment α) :=
  if conditions.isEmpty then [] else .words "WHERE " :: joined " AND " conditions

@[simp] theorem filterSegments_nil {α : Type}
    : filterSegments ([] : List (List (Segment α))) = [] := rfl

@[simp] theorem filterSegments_cons {α : Type} (condition : List (Segment α))
    (rest : List (List (Segment α)))
    : filterSegments (condition :: rest)
      = .words "WHERE " :: joined " AND " (condition :: rest) := rfl

def groupSegments : Option ColumnRef → List (Segment Value)
  | none => []
  | some key => [.words "GROUP BY ", .column key]

def orderSegments (greatestOnly : Bool) : List (Segment Value) :=
  if greatestOnly then [.words "ORDER BY count DESC LIMIT 1"] else []

def Join.segments : Join → List (Segment Value)
  | station foreignKey key =>
      [.join key.table, .words " ON ", .column foreignKey, .words " = ", .column key]
  | weather moment day =>
      [.join day.table, .words " ON DATE(", .column moment, .words ") = ", .column day]

def Source.segments (s : Source) : List (Segment Value) :=
  joined " " ([.start s.start] :: s.joins.map Join.segments)

namespace Plan

/-- The clauses of a plan; one that is not there has no segments. -/
def clauses (p : Plan) : List (List (Segment Value)) :=
  [p.projection.segments, p.source.segments, filterSegments (p.predicates.map Predicate.segments),
   groupSegments p.groupKey, orderSegments p.greatestOnly]

/-- The clauses that are there, with a space between any two. -/
def segments (p : Plan) : List (Segment Value) :=
  joined " " (p.clauses.filter fun clause => !clause.isEmpty)

end Plan

-----------------------------------------------------------------------------------------
-- Fragments that write segments
-----------------------------------------------------------------------------------------

/-- A fragment writes some segments when it has their open text and their values. -/
structure Fragment.Writes (f : Fragment) (segments : List (Segment Value)) : Prop where
  text : f.text = openText segments
  parameters : f.parameters = valuesOf segments

/-- An attempt at a fragment spells some segments when it succeeds exactly for phrases without
marks, and then writes them. -/
structure Spells (attempt : Except Unbalanced Fragment) (segments : List (Segment Value))
    : Prop where
  succeeds : AllPhrases (Phrase.Avoids marker) segments → ∃ f, attempt = .ok f
  avoids : ∀ {f}, attempt = .ok f → AllPhrases (Phrase.Avoids marker) segments
  writes : ∀ {f}, attempt = .ok f → f.Writes segments

/-- The check of marks against values looks for marks inside phrases. -/
theorem Fragment.of_spells {text : String} {values : List Value} {segments : List (Segment Value)}
    (ht : text = openText segments) (hv : values = valuesOf segments) (tables : List String)
    : Spells (Fragment.of text values tables) segments := by
  subst ht hv
  have avoids_iff := markerCount_openText_iff segments
  constructor
  · intro avoids
    exact ⟨_, dif_pos (avoids_iff.mpr avoids)⟩
  · intro f made
    by_cases balanced : markerCount (openText segments) = (valuesOf segments).length
    · exact avoids_iff.mp balanced
    · simp [Fragment.of, balanced] at made
  · intro f made
    by_cases balanced : markerCount (openText segments) = (valuesOf segments).length
    · obtain rfl := Except.ok.inj ((dif_pos balanced).symm.trans made)
      exact ⟨rfl, rfl⟩
    · simp [Fragment.of, balanced] at made

theorem Fragment.empty_spells : Spells (.ok .empty) [] :=
  Fragment.of_spells openText_nil.symm valuesOf_nil.symm []

theorem Projection.fragment_spells (p : Projection)
    : Spells p.fragment p.segments := by
  have values : [] = valuesOf p.segments := by cases p <;> rfl
  exact Fragment.of_spells p.openText_segments.symm values p.tables

theorem Predicate.fragment_spells (p : Predicate)
    : Spells p.fragment p.segments :=
  Fragment.of_spells p.openText_segments.symm p.valuesOf_segments.symm [p.column.table]

theorem groupFragment_spells (key : Option ColumnRef)
    : Spells (groupFragment key) (groupSegments key) := by
  cases key with
  | none => exact Fragment.empty_spells
  | some key =>
      have text : "GROUP BY " ++ key.text = openText (groupSegments (some key)) := by
        simp [groupSegments, Phrase.text]
      exact Fragment.of_spells text rfl [key.table]

theorem orderFragment_spells (greatestOnly : Bool)
    : Spells (orderFragment greatestOnly) (orderSegments greatestOnly) := by
  cases greatestOnly with
  | false => exact Fragment.empty_spells
  | true =>
      have text : "ORDER BY count DESC LIMIT 1" = openText (orderSegments true) := by
        simp [orderSegments, Phrase.text]
      exact Fragment.of_spells text rfl []

theorem Join.openText_segments (j : Join)
    : openText j.segments = j.text := by
  unfold segments text
  cases j <;>
    simp only [openText_fixed, openText_nil, Phrase.text, String.append_assoc, String.append_empty]

/-- No part of a source is bound. -/
theorem Source.valuesOf_segments (s : Source)
    : valuesOf s.segments = [] := by
  rw [Source.segments, valuesOf_joined, List.flatMap_cons, List.flatMap_map]
  refine List.flatMap_eq_nil_iff.mpr ?_
  intro j _
  cases j <;> rfl

theorem Source.fragment_spells (s : Source)
    : Spells s.fragment s.segments := by
  have text : s.text = openText s.segments := by
    have joins : s.joins.map Join.text = (s.joins.map Join.segments).map openText := by
      rw [List.map_map]
      exact List.map_congr_left fun j _ => j.openText_segments.symm
    rw [Source.segments, openText_joined, Source.text, List.map_cons, joins, openText_fixed,
      openText_nil, String.append_empty]
    rfl
  exact Fragment.of_spells text s.valuesOf_segments.symm [s.start]

/-- Predicates without marks in their phrases make fragments, by induction. -/
theorem mapM_fragment_succeeds {predicates : List Predicate}
    (h : ∀ p ∈ predicates, AllPhrases (Phrase.Avoids marker) p.segments)
    : ∃ fragments, predicates.mapM Predicate.fragment = .ok fragments := by
  induction predicates with
  | nil => exact ⟨[], rfl⟩
  | cons p rest ih =>
      obtain ⟨hp, hrest⟩ := List.forall_mem_cons.mp h
      obtain ⟨f, hf⟩ := p.fragment_spells.succeeds hp
      obtain ⟨fragments, hfs⟩ := ih hrest
      exact ⟨f :: fragments, by rw [List.mapM_cons, hf, hfs]; rfl⟩

/-- The fragments of predicates write them one for one. -/
theorem mapM_fragment_writes {predicates : List Predicate} {fragments : List Fragment}
    (h : predicates.mapM Predicate.fragment = .ok fragments)
    : List.Forall₂ Fragment.Writes fragments (predicates.map Predicate.segments) := by
  rw [List.forall₂_map_right_iff]
  exact ((mapM_eq_ok_iff.mp h).imp fun p _ made => p.fragment_spells.writes made).flip

/-- Fragments that write lists of segments have their open texts and their values. -/
theorem Fragment.texts_of_writes {fragments : List Fragment}
    {lists : List (List (Segment Value))} (h : List.Forall₂ Fragment.Writes fragments lists)
    : fragments.map Fragment.text = lists.map openText
      ∧ fragments.flatMap Fragment.parameters = lists.flatMap valuesOf := by
  induction h with
  | nil => simp
  | cons hw _ ih => simp [hw.text, hw.parameters, ih]

theorem allPhrases_filterSegments {P : Phrase → Prop} (first : P (.words "WHERE "))
    (between : P (.words " AND ")) (conditions : List (List (Segment Value)))
    : AllPhrases P (filterSegments conditions)
      ↔ ∀ condition ∈ conditions, AllPhrases P condition := by
  cases conditions with
  | nil => simp
  | cons condition rest =>
      rw [filterSegments_cons, allPhrases_fixed, allPhrases_joined between]
      exact and_iff_right first

/-- A reading of segments that skips the words of conditions reads them one by one. -/
theorem filterMap_filterSegments {α β : Type} (read : Segment α → Option β)
    (first : read (.words "WHERE ") = none) (between : read (.words " AND ") = none)
    (conditions : List (List (Segment α)))
    : (filterSegments conditions).filterMap read = conditions.flatMap (·.filterMap read) := by
  cases conditions with
  | nil => rfl
  | cons condition rest =>
      rw [filterSegments_cons, List.filterMap_cons_none first, filterMap_joined read between]

theorem valuesOf_filterSegments (predicates : List Predicate)
    : valuesOf (filterSegments (predicates.map Predicate.segments))
      = predicates.flatMap Predicate.parameters := by
  rw [valuesOf, filterMap_filterSegments Segment.value? rfl rfl, List.flatMap_map]
  change predicates.flatMap (fun p => valuesOf p.segments) = _
  simp only [Predicate.valuesOf_segments]

/-- The condition clause spells its predicates joined: once each predicate has its fragment, the
marks of the whole clause are checked against its values again. -/
theorem filterFragment_spells (predicates : List Predicate)
    : Spells (filterFragment predicates) (filterSegments (predicates.map Predicate.segments)) := by
  cases predicates with
  | nil => exact Fragment.empty_spells
  | cons p rest =>
      have made {fragments} (h : (p :: rest).mapM Predicate.fragment = .ok fragments)
          : Spells (filterFragment (p :: rest))
              (filterSegments ((p :: rest).map Predicate.segments)) := by
        have writes := mapM_fragment_writes h
        obtain ⟨texts, values⟩ := Fragment.texts_of_writes writes
        have some_fragment : fragments.isEmpty = false := by cases writes; rfl
        have whole : filterFragment (p :: rest)
            = Fragment.of ("WHERE " ++ String.intercalate " AND " (fragments.map Fragment.text))
                (fragments.flatMap Fragment.parameters) (fragments.flatMap Fragment.tables) := by
          rw [filterFragment, h]
          change (if fragments.isEmpty then _ else _) = _
          rw [some_fragment, if_neg Bool.false_ne_true]
        rw [whole, texts, values, ← openText_joined, ← valuesOf_joined " AND "]
        refine Fragment.of_spells ?_ ?_ _
        · rw [List.map_cons, filterSegments_cons, openText_fixed, Phrase.text]
        · rfl
      constructor
      · intro avoids
        have each := (allPhrases_filterSegments (by decide) (by decide) _).mp avoids
        obtain ⟨fragments, h⟩ := mapM_fragment_succeeds fun q member =>
          each q.segments (List.mem_map_of_mem member)
        exact (made h).succeeds avoids
      · intro f h
        obtain ⟨fragments, hf, _⟩ := bind_eq_ok_iff.mp h
        exact (made hf).avoids h
      · intro f h
        obtain ⟨fragments, hf, _⟩ := bind_eq_ok_iff.mp h
        exact (made hf).writes h

-----------------------------------------------------------------------------------------
-- The whole plan
-----------------------------------------------------------------------------------------

theorem Source.segments_eq (s : Source)
    : s.segments = .start s.start :: s.joins.flatMap fun j => .words " " :: j.segments := by
  suffices h : ∀ first : List (Segment Value),
      joined " " (first :: s.joins.map Join.segments)
        = first ++ s.joins.flatMap fun j => .words " " :: j.segments from
    h [.start s.start]
  induction s.joins with
  | nil => simp
  | cons j rest ih =>
      intro first
      rw [List.map_cons, joined_cons_cons, ih, List.flatMap_cons]
      rfl

/-- A clause of a plan that is there opens with words of its own, by the five clauses. -/
theorem Plan.clause_opens {p : Plan} {clause : List (Segment Value)} (h : clause ∈ p.clauses)
    : clause = [] ∨ ∃ phrase rest, clause = .fixed phrase :: rest ∧ phrase.text ≠ "" := by
  simp only [Plan.clauses, List.mem_cons, List.not_mem_nil, or_false] at h
  rcases h with rfl | rfl | rfl | rfl | rfl
  · cases p.projection <;> exact Or.inr ⟨_, _, rfl, by decide⟩
  · rw [Source.segments_eq]
    exact Or.inr ⟨_, _, rfl, by simp [Phrase.text, String.append_eq_empty_iff]⟩
  · cases p.predicates with
    | nil => exact Or.inl rfl
    | cons first rest => exact Or.inr ⟨.words "WHERE ", _, rfl, by decide⟩
  · cases p.groupKey with
    | none => exact Or.inl rfl
    | some key => exact Or.inr ⟨.words "GROUP BY ", _, rfl, by decide⟩
  · cases p.greatestOnly with
    | false => exact Or.inl rfl
    | true => exact Or.inr ⟨.words "ORDER BY count DESC LIMIT 1", _, rfl, by decide⟩

theorem Plan.isEmpty_openText_clause {p : Plan} {clause : List (Segment Value)}
    (h : clause ∈ p.clauses)
    : (openText clause).isEmpty = clause.isEmpty := by
  rcases p.clause_opens h with rfl | ⟨phrase, rest, rfl, text⟩
  · rfl
  · simp [text]

/-- Fragments that write clauses leave out the same ones as empty, and what they keep has the same
texts and values. -/
theorem Fragment.kept_of_writes {fragments : List Fragment} {lists : List (List (Segment Value))}
    (h : List.Forall₂ Fragment.Writes fragments lists)
    (opens : ∀ segments ∈ lists, (openText segments).isEmpty = segments.isEmpty)
    : (fragments.filter fun f => !f.isEmpty).map Fragment.text
      = (lists.filter fun segments => !segments.isEmpty).map openText := by
  induction h with
  | nil => rfl
  | @cons f segments _ _ hw _ ih =>
      obtain ⟨first, rest⟩ := List.forall_mem_cons.mp opens
      have same : f.isEmpty = segments.isEmpty := by rw [Fragment.isEmpty, hw.text, first]
      rw [List.filter_cons, List.filter_cons, same]
      cases segments.isEmpty with
      | true => simpa using ih rest
      | false => simp [hw.text, ih rest]

/-- Leaving out the clauses without segments leaves out no segment. -/
theorem flatMap_kept {β : Type} (read : List (Segment Value) → List β) (hread : read [] = [])
    (lists : List (List (Segment Value)))
    : (lists.filter fun segments => !segments.isEmpty).flatMap read = lists.flatMap read := by
  induction lists with
  | nil => rfl
  | cons segments rest ih =>
      cases segments with
      | nil => simpa [hread] using ih
      | cons segment more => simp [ih]

/-- A reading of segments that skips words of the language reads a plan clause by clause. -/
theorem Plan.filterMap_segments {β : Type} (p : Plan) (read : Segment Value → Option β)
    (skipped : read (.words " ") = none)
    : p.segments.filterMap read = p.clauses.flatMap (·.filterMap read) := by
  rw [Plan.segments, filterMap_joined read skipped, flatMap_kept (·.filterMap read) rfl]

/-- The values of a plan are those of its predicates, because no other clause has any. -/
theorem Plan.valuesOf_segments (p : Plan)
    : valuesOf p.segments = p.predicates.flatMap Predicate.parameters := by
  have projection : valuesOf p.projection.segments = [] := by cases p.projection <;> rfl
  have group : valuesOf (groupSegments p.groupKey) = [] := by cases p.groupKey <;> rfl
  have order : valuesOf (orderSegments p.greatestOnly) = [] := by cases p.greatestOnly <;> rfl
  rw [valuesOf, p.filterMap_segments Segment.value? rfl]
  change p.clauses.flatMap valuesOf = _
  simp [Plan.clauses, projection, p.source.valuesOf_segments, valuesOf_filterSegments, group, order]

/-- All phrases of a plan have a property that a space has when those of each clause do. -/
theorem Plan.allPhrases_segments {P : Phrase → Prop} (blank : P (.words " ")) (p : Plan)
    : AllPhrases P p.segments ↔ ∀ clause ∈ p.clauses, AllPhrases P clause := by
  rw [Plan.segments, allPhrases_joined blank]
  constructor
  · intro h clause member
    cases clause with
    | nil => exact allPhrases_nil _
    | cons segment rest => exact h _ (List.mem_filter.mpr ⟨member, rfl⟩)
  · intro h clause member
    exact h clause (List.mem_filter.mp member).1

/-- Fragments that write the clauses of a plan make up its numbered segments and its values. -/
theorem Plan.written_of_writes {p : Plan} {fragments : List Fragment}
    (h : List.Forall₂ Fragment.Writes fragments p.clauses)
    (avoids : AllPhrases (Phrase.Avoids marker) p.segments)
    : numberMarkers
          (String.intercalate " " ((fragments.filter fun f => !f.isEmpty).map Fragment.text))
        = write dollarMark p.segments
      ∧ fragments.flatMap Fragment.parameters = valuesOf p.segments := by
  constructor
  · rw [Fragment.kept_of_writes h fun clause => p.isEmpty_openText_clause, ← openText_joined]
    exact numberMarkers_openText avoids
  · rw [(Fragment.texts_of_writes h).2, valuesOf, p.filterMap_segments Segment.value? rfl]
    rfl

/-- The fragments made for the clauses of a plan write them one for one. -/
theorem Plan.clauses_written {p : Plan}
    {selection filter grouping ordering source : Fragment}
    (hsel : p.projection.fragment = .ok selection)
    (hfil : filterFragment p.predicates = .ok filter)
    (hgrp : groupFragment p.groupKey = .ok grouping)
    (hord : orderFragment p.greatestOnly = .ok ordering)
    (hsrc : p.source.fragment = .ok source)
    : List.Forall₂ Fragment.Writes [selection, source, filter, grouping, ordering] p.clauses := by
  refine .cons (p.projection.fragment_spells.writes hsel) ?_
  refine .cons (p.source.fragment_spells.writes hsrc) ?_
  refine .cons ((filterFragment_spells p.predicates).writes hfil) ?_
  refine .cons ((groupFragment_spells p.groupKey).writes hgrp) ?_
  exact .cons ((orderFragment_spells p.greatestOnly).writes hord) .nil

/-- A plan is written exactly when no phrase of it holds a mark. Its text is then its numbered
segments, and its values are those of its segments. -/
theorem Plan.render_ok_iff (p : Plan) (text : String) (values : List Value)
    : p.render = .ok (text, values)
      ↔ AllPhrases (Phrase.Avoids marker) p.segments ∧ text = write dollarMark p.segments
        ∧ values = valuesOf p.segments := by
  have selections := p.projection.fragment_spells
  have filters := filterFragment_spells p.predicates
  have groupings := groupFragment_spells p.groupKey
  have orderings := orderFragment_spells p.greatestOnly
  have sources := p.source.fragment_spells
  have each := p.allPhrases_segments (P := Phrase.Avoids marker) (by decide)
  rw [Plan.render]
  simp only [bind_eq_ok_iff]
  constructor
  · rintro ⟨selection, hsel, filter, hfil, grouping, hgrp, ordering, hord, source, hsrc, whole⟩
    have avoids : AllPhrases (Phrase.Avoids marker) p.segments := by
      rw [each]
      simp [Plan.clauses, selections.avoids hsel, filters.avoids hfil, groupings.avoids hgrp,
        orderings.avoids hord, sources.avoids hsrc]
    have writes := Plan.clauses_written hsel hfil hgrp hord hsrc
    obtain ⟨htext, hvalues⟩ := p.written_of_writes writes avoids
    obtain ⟨rfl, rfl⟩ := Prod.mk.inj (Except.ok.inj whole)
    exact ⟨avoids, htext, hvalues⟩
  · rintro ⟨avoids, rfl, rfl⟩
    have each := each.mp avoids
    obtain ⟨selection, hsel⟩ := selections.succeeds (each _ (by simp [Plan.clauses]))
    obtain ⟨filter, hfil⟩ := filters.succeeds (each _ (by simp [Plan.clauses]))
    obtain ⟨grouping, hgrp⟩ := groupings.succeeds (each _ (by simp [Plan.clauses]))
    obtain ⟨ordering, hord⟩ := orderings.succeeds (each _ (by simp [Plan.clauses]))
    obtain ⟨source, hsrc⟩ := sources.succeeds (each _ (by simp [Plan.clauses]))
    have writes := Plan.clauses_written hsel hfil hgrp hord hsrc
    obtain ⟨htext, hvalues⟩ := p.written_of_writes writes avoids
    exact ⟨selection, hsel, filter, hfil, grouping, hgrp, ordering, hord, source, hsrc,
      congrArg Except.ok (Prod.ext htext hvalues)⟩

end RideQuestions.Query
