import RideQuestions.Proofs.Matching.Key
import RideQuestions.Proofs.Matching.Memory
import Mathlib.Data.List.Perm.Basic

/-! The order of a ranking. It holds every pair of a column and a token that reaches the least
score, once, better scores first and equal ones by table, column and token, and there is one such
list. So neither the order of the tokens nor what is remembered shows in it, and a higher least
score only leaves entries out.
-/

namespace RideQuestions

open Number

-----------------------------------------------------------------------------------------
-- Numbers
-----------------------------------------------------------------------------------------

namespace Number.Binary64

variable {x y z : Binary64}

theorem le_iff
    : x.le y = true ↔ x.isNaN = false ∧ y.isNaN = false ∧ x.orderKey ≤ y.orderKey := by
  rw [le, Bool.and_eq_true, Bool.and_eq_true, Bool.not_eq_true', Bool.not_eq_true',
    decide_eq_true_eq, and_assoc]

theorem lt_iff
    : x.lt y = true ↔ x.isNaN = false ∧ y.isNaN = false ∧ x.orderKey < y.orderKey := by
  rw [lt, Bool.and_eq_true, Bool.and_eq_true, Bool.not_eq_true', Bool.not_eq_true',
    decide_eq_true_eq, and_assoc]

theorem le_trans (first : x.le y = true) (second : y.le z = true)
    : x.le z = true := by
  rw [le_iff] at *
  exact ⟨first.1, second.2.1, Int.le_trans first.2.2 second.2.2⟩

theorem lt_asymm (less : x.lt y = true)
    : y.lt x = false := by
  rw [lt_iff] at less
  rw [← Bool.not_eq_true, lt_iff]
  exact fun greater => absurd greater.2.2 (Int.not_lt.mpr (Int.le_of_lt less.2.2))

end Number.Binary64

namespace Matching

-----------------------------------------------------------------------------------------
-- Places
-----------------------------------------------------------------------------------------

/-- A token at a column of a schema, both table and column by their position. -/
structure Place where
  table : Nat
  column : Nat
  token : String

/-- The match of a place, with the score of its token against its column. -/
def Place.match? (schema : Schema) (p : Place) : Option ColumnMatch := do
  let table ← schema.tables[p.table]?
  let column ← table.columns[p.column]?
  return ⟨table.name, column.name, column.declaredType,
    scoreColumn p.token column.name table.name, p.token⟩

/-- The order of a schema: by table, then by column, then by token. -/
def Place.Precedes (p q : Place) : Prop :=
  p.table < q.table
    ∨ p.table = q.table ∧ (p.column < q.column ∨ p.column = q.column ∧ p.token < q.token)

/-- A match with its place. -/
abbrev Entry := Place × ColumnMatch

/-- One entry stands before another when its score is better, or when the other's is not and its
place comes first. -/
def Outranks (a b : Entry) : Prop :=
  b.2.score.lt a.2.score = true ∨ a.2.score.lt b.2.score = false ∧ a.1.Precedes b.1

/-- Some entries are the ranking of some tokens: they are the places of these tokens whose match
reaches the least score, and every one outranks those behind it. -/
structure Ranks (schema : Schema) (minScore : Binary64) (tokens : List String)
    (entries : List Entry) : Prop where
  mem_iff : ∀ p m, (p, m) ∈ entries
    ↔ p.token ∈ tokens ∧ p.match? schema = some m ∧ minScore.le m.score = true
  ordered : entries.Pairwise Outranks

theorem Place.Precedes.asymm {p q : Place} (before : p.Precedes q)
    : ¬q.Precedes p := by
  rintro behind
  rcases before with table | ⟨same, column | ⟨same', token⟩⟩ <;>
    rcases behind with table' | ⟨_, column' | ⟨_, token'⟩⟩
  all_goals first | omega | exact token.asymm token'

theorem Outranks.asymm {a b : Entry} (before : Outranks a b)
    : ¬Outranks b a := by
  rintro (better | ⟨no_better, behind⟩)
  · rcases before with worse | ⟨no_worse, _⟩
    · exact absurd (Binary64.lt_asymm worse) (by simp [better])
    · exact absurd no_worse (by simp [better])
  · rcases before with worse | ⟨_, first⟩
    · exact absurd no_better (by simp [worse])
    · exact first.asymm behind

namespace Ranks

variable {schema : Schema} {minScore higher : Binary64} {tokens others : List String}
  {entries more : List Entry}

theorem nodup (h : Ranks schema minScore tokens entries)
    : entries.Nodup :=
  h.ordered.imp fun before same => (same ▸ before).asymm (same ▸ before)

/-- There is one ranking, since two would hold the same entries in the same order. -/
theorem unique (h : Ranks schema minScore tokens entries)
    (other : Ranks schema minScore tokens more)
    : entries = more := by
  refine List.Perm.eq_of_pairwise (fun a b _ _ before behind => absurd behind ?_) h.ordered
    other.ordered ?_
  · exact Outranks.asymm before
  · refine (List.perm_ext_iff_of_nodup h.nodup other.nodup).mpr fun e => ?_
    rw [h.mem_iff, other.mem_iff]

/-- Only the set of tokens matters. -/
theorem congr (h : Ranks schema minScore tokens entries)
    (same : ∀ token, token ∈ others ↔ token ∈ tokens)
    : Ranks schema minScore others entries :=
  ⟨fun p m => by rw [h.mem_iff, same], h.ordered⟩

/-- A higher least score leaves out the entries that do not reach it. -/
theorem raise (h : Ranks schema minScore tokens entries) (raised : minScore.le higher = true)
    : Ranks schema higher tokens (entries.filter fun e => higher.le e.2.score) := by
  refine ⟨fun p m => ?_, h.ordered.filter _⟩
  rw [List.mem_filter, h.mem_iff]
  constructor
  · rintro ⟨⟨token, made, _⟩, reached⟩
    exact ⟨token, made, reached⟩
  · rintro ⟨token, made, reached⟩
    exact ⟨⟨token, made, Binary64.le_trans raised reached⟩, reached⟩

/-- Scores never increase along a ranking: one that is behind is not better, and none is missing. -/
theorem pairwise_score (h : Ranks schema minScore tokens entries)
    : (entries.map Prod.snd).Pairwise fun a b => b.score.le a.score = true := by
  rw [List.pairwise_map]
  refine h.ordered.imp_of_mem fun {a b} ha hb before => ?_
  obtain ⟨_, number, _⟩ := Binary64.le_iff.mp ((h.mem_iff a.1 a.2).mp ha).2.2
  obtain ⟨_, number', _⟩ := Binary64.le_iff.mp ((h.mem_iff b.1 b.2).mp hb).2.2
  rw [Binary64.le_iff]
  refine ⟨number', number, ?_⟩
  rcases before with better | ⟨no_worse, _⟩
  · exact Int.le_of_lt (Binary64.lt_iff.mp better).2.2
  · rw [← Bool.not_eq_true, Binary64.lt_iff] at no_worse
    exact Int.not_lt.mp fun worse => no_worse ⟨number, number', worse⟩

end Ranks

-----------------------------------------------------------------------------------------
-- Candidates in their places
-----------------------------------------------------------------------------------------

/-- The entries of one column, in the order of the tokens. -/
def columnEntries (minScore : Binary64) (tokens : List String) (table : Table String)
    (i : Nat) (column : Column String) (j : Nat) : List Entry :=
  tokens.filterMap fun token =>
    let score := scoreColumn token column.name table.name
    if minScore.le score then
      some (⟨i, j, token⟩, ⟨table.name, column.name, column.declaredType, score, token⟩)
    else none

/-- The candidates with their places, in schema order. -/
def placed (schema : Schema) (minScore : Binary64) (tokens : List String) : List Entry :=
  schema.tables.zipIdx.flatMap fun (table, i) =>
    table.columns.zipIdx.flatMap fun (column, j) => columnEntries minScore tokens table i column j

variable {schema : Schema} {minScore : Binary64} {tokens : List String}

theorem mem_columnEntries {table : Table String} {i j : Nat} {column : Column String} {e : Entry}
    : e ∈ columnEntries minScore tokens table i column j
      ↔ e.1.table = i ∧ e.1.column = j ∧ e.1.token ∈ tokens
        ∧ e.2 = ⟨table.name, column.name, column.declaredType,
            scoreColumn e.1.token column.name table.name, e.1.token⟩
        ∧ minScore.le e.2.score = true := by
  rw [columnEntries, List.mem_filterMap]
  constructor
  · rintro ⟨token, member, made⟩
    dsimp only at made
    split at made
    · next reached =>
        obtain rfl := Option.some.inj made
        exact ⟨rfl, rfl, member, rfl, reached⟩
    · exact absurd made (by simp)
  · obtain ⟨⟨i', j', token⟩, m⟩ := e
    dsimp only
    rintro ⟨rfl, rfl, member, rfl, reached⟩
    exact ⟨token, member, if_pos reached⟩

/-- Candidates in their places are the places whose match reaches the least score. -/
theorem mem_placed (p : Place) (m : ColumnMatch)
    : (p, m) ∈ placed schema minScore tokens
      ↔ p.token ∈ tokens ∧ p.match? schema = some m ∧ minScore.le m.score = true := by
  have made : p.match? schema = some m
      ↔ ∃ table, schema.tables[p.table]? = some table
        ∧ ∃ column, table.columns[p.column]? = some column
          ∧ m = ⟨table.name, column.name, column.declaredType,
              scoreColumn p.token column.name table.name, p.token⟩ := by
    simp only [Place.match?, Option.bind_eq_bind, Option.bind_eq_some_iff, Option.pure_def,
      Option.some.injEq, eq_comm (a := m)]
  simp only [placed, List.mem_flatMap, Prod.exists, List.mem_zipIdx_iff_getElem?, mem_columnEntries]
  rw [made]
  constructor
  · rintro ⟨table, i, stands, column, j, stands', rfl, rfl, member, same, reached⟩
    exact ⟨member, ⟨table, stands, column, stands', same⟩, reached⟩
  · rintro ⟨member, ⟨table, stands, column, stands', same⟩, reached⟩
    exact ⟨table, _, stands, column, _, stands', rfl, rfl, member, same, reached⟩

/-- Positions grow along a list. -/
theorem pairwise_zipIdx {α : Type} (items : List α)
    : items.zipIdx.Pairwise fun a b => a.2 < b.2 := by
  have positions : (items.zipIdx.map Prod.snd).Pairwise (· < ·) := by
    rw [List.zipIdx_map_snd]
    exact List.pairwise_lt_range'
  exact List.pairwise_map.mp positions

/-- Candidates stand in schema order when their tokens do. -/
theorem pairwise_placed (increasing : tokens.Pairwise (· < ·))
    : (placed schema minScore tokens).Pairwise fun a b => a.1.Precedes b.1 := by
  rw [placed, List.pairwise_flatMap]
  constructor
  · rintro ⟨table, i⟩ _
    rw [List.pairwise_flatMap]
    constructor
    · rintro ⟨column, j⟩ _
      refine List.pairwise_filterMap.mpr (increasing.imp fun {a b} less => ?_)
      intro e made f made'
      dsimp only at made made'
      split at made <;> split at made' <;> cases made <;> cases made'
      exact .inr ⟨rfl, .inr ⟨rfl, less⟩⟩
    · refine (pairwise_zipIdx table.columns).imp fun {a b} less e member f member' => ?_
      obtain ⟨inTable, inColumn, _⟩ := mem_columnEntries.mp member
      obtain ⟨inTable', inColumn', _⟩ := mem_columnEntries.mp member'
      exact .inr ⟨inTable.trans inTable'.symm, .inl (by rwa [inColumn, inColumn'])⟩
  · refine (pairwise_zipIdx schema.tables).imp fun {a b} less e member f member' => ?_
    obtain ⟨_, _, member⟩ := List.mem_flatMap.mp member
    obtain ⟨_, _, member'⟩ := List.mem_flatMap.mp member'
    have inTable := (mem_columnEntries.mp member).1
    have inTable' := (mem_columnEntries.mp member').1
    exact .inl (by rwa [inTable, inTable'])

/-- Without the places these are the candidates. -/
theorem map_snd_placed (schema : Schema) (minScore : Binary64) (tokens : List String)
    : (placed schema minScore tokens).map Prod.snd = candidates schema minScore tokens := by
  have inColumn (table : Table String) (i : Nat) (column : Column String) (j : Nat)
      : (columnEntries minScore tokens table i column j).map Prod.snd
        = tokens.filterMap fun token =>
            let score := scoreColumn token column.name table.name
            if minScore.le score then
              some ⟨table.name, column.name, column.declaredType, score, token⟩
            else none := by
    rw [columnEntries, List.map_filterMap]
    refine List.filterMap_congr fun token _ => ?_
    dsimp only
    split <;> rfl
  have erase {α β : Type} (items : List α) (f : α → List β)
      : (items.zipIdx.flatMap fun e => f e.1) = items.flatMap f := by
    rw [← List.flatMap_map Prod.fst f, List.zipIdx_map_fst]
  rw [placed, List.map_flatMap, candidates, ← erase schema.tables]
  refine List.flatMap_congr fun table _ => ?_
  rw [List.map_flatMap, ← erase table.1.columns]
  exact List.flatMap_congr fun column _ => inColumn table.1 table.2 column.1 column.2

-----------------------------------------------------------------------------------------
-- Sorted by score
-----------------------------------------------------------------------------------------

/-- Sorting keeps the order of items that may all stand before one another. -/
theorem filter_mergeSort {α : Type} {le : α → α → Bool}
    (trans : ∀ a b c, le a b = true → le b c = true → le a c = true)
    (total : ∀ a b, (le a b || le b a) = true) {p : α → Bool}
    (tied : ∀ a b, p a = true → p b = true → le a b = true) (items : List α)
    : (items.mergeSort le).filter p = items.filter p := by
  have sorted : (items.filter p).Pairwise fun a b => le a b = true :=
    List.pairwise_of_forall_mem_list fun a ha b hb =>
      tied a b (List.of_mem_filter ha) (List.of_mem_filter hb)
  have kept := (List.sublist_mergeSort trans total sorted List.filter_sublist).filter p
  rw [List.filter_filter, funext fun a => Bool.and_self (p a)] at kept
  exact (kept.eq_of_length ((List.mergeSort_perm items le).filter p).length_eq.symm).symm

/-- The entries of a ranking: the candidates in their places, best first. -/
def rankedEntries (schema : Schema) (minScore : Binary64) (tokens : List String) : List Entry :=
  (placed schema minScore tokens).mergeSort fun a b => ranksBefore a.2 b.2

theorem map_snd_rankedEntries (schema : Schema) (minScore : Binary64) (tokens : List String)
    : (rankedEntries schema minScore tokens).map Prod.snd = rank schema minScore tokens := by
  rw [rankedEntries, rank, ← map_snd_placed]
  exact List.map_mergeSort fun a _ b _ => rfl

theorem ranksBefore_iff {a b : ColumnMatch}
    : ranksBefore a b = true ↔ b.score.orderKey ≤ a.score.orderKey := by
  rw [ranksBefore, decide_eq_true_eq]

theorem ranksBefore_trans (a b c : Entry) (first : ranksBefore a.2 b.2 = true)
    (second : ranksBefore b.2 c.2 = true)
    : ranksBefore a.2 c.2 = true := by
  rw [ranksBefore_iff] at *
  exact Int.le_trans second first

theorem ranksBefore_total (a b : Entry)
    : (ranksBefore a.2 b.2 || ranksBefore b.2 a.2) = true := by
  rw [Bool.or_eq_true, ranksBefore_iff, ranksBefore_iff]
  exact Int.le_total _ _

/-- Two entries of equal score stand in the ranking as they stand among the candidates. -/
theorem sublist_placed_of_tied {a b : Entry}
    (stand : List.Sublist [a, b] (rankedEntries schema minScore tokens))
    (equal : b.2.score.orderKey = a.2.score.orderKey)
    : List.Sublist [a, b] (placed schema minScore tokens) := by
  have tied := stand.filter fun e => decide (e.2.score.orderKey = a.2.score.orderKey)
  have order : ∀ e f : Entry, decide (e.2.score.orderKey = a.2.score.orderKey) = true →
      decide (f.2.score.orderKey = a.2.score.orderKey) = true → ranksBefore e.2 f.2 = true := by
    intro e f he hf
    rw [ranksBefore_iff, of_decide_eq_true he, of_decide_eq_true hf]
  rw [rankedEntries, filter_mergeSort ranksBefore_trans ranksBefore_total order] at tied
  simpa [equal] using tied.trans List.filter_sublist

/-- Candidates of increasing tokens become their ranking when they are sorted by score: equal ones
keep the order of the schema. -/
theorem ranks_rankedEntries (increasing : tokens.Pairwise (· < ·))
    : Ranks schema minScore tokens (rankedEntries schema minScore tokens) := by
  have mem_iff (e : Entry)
      : e ∈ rankedEntries schema minScore tokens ↔ e ∈ placed schema minScore tokens :=
    (List.mergeSort_perm _ _).mem_iff
  have sorted : (rankedEntries schema minScore tokens).Pairwise fun a b =>
      ranksBefore a.2 b.2 = true := List.pairwise_mergeSort ranksBefore_trans ranksBefore_total _
  refine ⟨fun p m => (mem_iff _).trans (mem_placed p m), ?_⟩
  -- Sorting alone says nothing about equal scores, so two entries are followed back to where they
  -- stood before it, which needs them in their order and not merely as members.
  rw [List.pairwise_iff_forall_sublist] at sorted ⊢
  intro a b stand
  have number (e : Entry) (member : e ∈ [a, b]) : e.2.score.isNaN = false :=
    (Binary64.le_iff.mp ((mem_placed e.1 e.2).mp ((mem_iff e).mp (stand.subset member))).2.2).2.1
  rcases Int.lt_or_eq_of_le (ranksBefore_iff.mp (sorted stand)) with better | equal
  · exact .inl (Binary64.lt_iff.mpr ⟨number b (by simp), number a (by simp), better⟩)
  · have first := sublist_placed_of_tied stand equal
    refine .inr ⟨?_, List.pairwise_iff_forall_sublist.mp (pairwise_placed increasing) first⟩
    rw [← Bool.not_eq_true, Binary64.lt_iff]
    exact fun worse => absurd worse.2.2 (by omega)

end Matching

-----------------------------------------------------------------------------------------
-- The answers of a mapper
-----------------------------------------------------------------------------------------

namespace Mapper

/-- A mapper after some rankings. -/
def ranked (m : Mapper) (earlier : List (List String)) : Mapper :=
  earlier.foldl (fun m tokens => (m.rank tokens).2) m

/-- Rankings keep the least score, the schema and the faithfulness of what is remembered. -/
theorem Faithful.ranked {m : Mapper} (h : m.Faithful) (earlier : List (List String))
    : (m.ranked earlier).Faithful ∧ (m.ranked earlier).minScore = m.minScore
      ∧ (m.ranked earlier).schema = m.schema := by
  induction earlier generalizing m with
  | nil => exact ⟨h, rfl, rfl⟩
  | cons tokens earlier ih =>
      obtain ⟨faithful, least, same⟩ := ih (h.rank_snd tokens)
      obtain ⟨least', same'⟩ := m.rank_keeps tokens
      refine ⟨faithful, least.trans least', same.trans ?_⟩
      rw [schema, schema, same']

/-- What is answered for some tokens on a schema that was published and then ranked for others. -/
def answer (m : Mapper) (schema : Schema) (capacity : Capacity) (earlier : List (List String))
    (tokens : List String) : List ColumnMatch :=
  (((m.publish schema capacity).ranked earlier).rank tokens).1

/-- An answer is made from the schema, the least score and the set of tokens alone. -/
theorem answer_eq (m : Mapper) (schema : Schema) (capacity : Capacity)
    (earlier : List (List String)) {tokens : List String}
    (plain : ∀ token ∈ tokens, token ≠ "" ∧ '|' ∉ token.toList)
    : m.answer schema capacity earlier tokens
      = Matching.rank schema m.minScore (Matching.inOrder tokens) := by
  obtain ⟨faithful, least, same⟩ := (m.faithful_publish schema capacity).ranked earlier
  rw [answer, faithful.rank_fst, ranking, least, same, Matching.tokensOfKey_cacheKey plain]
  rfl

/-- An answer lists the ranking of its tokens. -/
theorem exists_ranks (m : Mapper) (schema : Schema) (capacity : Capacity)
    (earlier : List (List String)) {tokens : List String}
    (plain : ∀ token ∈ tokens, token ≠ "" ∧ '|' ∉ token.toList)
    : ∃ entries, Matching.Ranks schema m.minScore tokens entries
        ∧ m.answer schema capacity earlier tokens = entries.map Prod.snd := by
  refine ⟨_, (Matching.ranks_rankedEntries (Matching.pairwise_inOrder tokens)).congr fun token =>
    Matching.mem_inOrder.symm, ?_⟩
  rw [m.answer_eq schema capacity earlier plain, Matching.map_snd_rankedEntries]

/-- The answer for some tokens holds one match for every pair of a column and a token that reaches
the least score and no other, better ones first and equal ones in the order of tables, columns and
tokens. It is the same for the same set of tokens, whatever was asked before and however much is
remembered, and a higher least score takes out exactly the matches that do not reach it. -/
theorem answer_is_ranking (m : Mapper) (schema : Schema) (capacity : Capacity)
    (earlier : List (List String)) (tokens : List String)
    (plain : ∀ token ∈ tokens, token ≠ "" ∧ '|' ∉ token.toList)
    : (∃ entries, Matching.Ranks schema m.minScore tokens entries ∧ entries.Nodup
        ∧ m.answer schema capacity earlier tokens = entries.map Prod.snd)
      ∧ (m.answer schema capacity earlier tokens).Pairwise (fun a b => b.score.le a.score = true)
      ∧ (∀ capacity' earlier' tokens', (∀ token, token ∈ tokens' ↔ token ∈ tokens) →
          m.answer schema capacity' earlier' tokens' = m.answer schema capacity earlier tokens)
      ∧ ∀ higher, m.minScore.le higher = true → ∀ capacity' earlier',
          Mapper.answer { m with minScore := higher } schema capacity' earlier' tokens
            = (m.answer schema capacity earlier tokens).filter fun c => higher.le c.score := by
  obtain ⟨entries, ranks, made⟩ := m.exists_ranks schema capacity earlier plain
  refine ⟨⟨entries, ranks, ranks.nodup, made⟩, made ▸ ranks.pairwise_score, ?_, ?_⟩
  · intro capacity' earlier' tokens' same
    have plain' : ∀ token ∈ tokens', token ≠ "" ∧ '|' ∉ token.toList :=
      fun token member => plain token ((same token).mp member)
    rw [m.answer_eq schema capacity' earlier' plain', m.answer_eq schema capacity earlier plain,
      Matching.inOrder_congr same]
  · intro higher raised capacity' earlier'
    obtain ⟨left, ranks', made'⟩ :=
      Mapper.exists_ranks { m with minScore := higher } schema capacity' earlier' plain
    rw [made, made', ranks'.unique (ranks.raise raised), List.filter_map]
    rfl

/-- A schema of one table, with the names of stations. -/
def stationSchema : Schema :=
  .ofListing [("stations", [("station_name", "text")])]

/-- What the word station finds there. -/
def stationMatch : ColumnMatch :=
  ⟨"stations", "station_name", "text",
    Matching.scoreColumn "station" "station_name" "stations", "station"⟩

/-- A token that is part of the only column finds it, and saying it again adds nothing, also after
another question. -/
theorem answer_is_ranking_twice
    : stationMatch ∈ answer {} stationSchema ⟨8, by decide⟩ [["where"]] ["station", "station"]
        ∧ answer {} stationSchema ⟨8, by decide⟩ [["where"]] ["station", "station"]
          = answer {} stationSchema ⟨8, by decide⟩ [] ["station"] := by
  have plain : ∀ token ∈ ["station"], token ≠ "" ∧ '|' ∉ token.toList := by decide
  obtain ⟨⟨entries, ranks, _, made⟩, _, same, _⟩ :=
    answer_is_ranking {} stationSchema ⟨8, by decide⟩ [] ["station"] plain
  have again := same ⟨8, by decide⟩ [["where"]] ["station", "station"] (by simp)
  refine ⟨?_, again⟩
  rw [again, made]
  have stands : Matching.Place.match? stationSchema ⟨0, 0, "station"⟩ = some stationMatch := by
    simp [Matching.Place.match?, stationSchema, Snapshot.ofListing, stationMatch]
  have reached : ({} : Mapper).minScore.le stationMatch.score = true := by decide +kernel
  exact List.mem_map_of_mem
    ((ranks.mem_iff _ _).mpr ⟨List.mem_singleton_self "station", stands, reached⟩)

end Mapper

end RideQuestions
