import RideQuestions.Matching.Mapper
import RideQuestions.Proofs.Value.Entries

/-! Remembered rankings are the rankings that would be made. Every entry of the cache holds the
ranking of the tokens that its own key stands for, through lookups, new entries and evictions.
-/

namespace RideQuestions

variable {α : Type}

-----------------------------------------------------------------------------------------
-- What every entry of a cache satisfies
-----------------------------------------------------------------------------------------

/-- Holds when every key of a cache and the value stored under it are related. -/
def Cache.All (P : String → α → Prop) (c : Cache α) : Prop :=
  ∀ e ∈ c.values, P e.1 e.2

namespace Cache

variable {P : String → α → Prop} {c : Cache α}

theorem all_empty (P : String → α → Prop) (capacity : Capacity)
    : (Cache.empty capacity).All P := by
  intro e member
  exact absurd member List.not_mem_nil

/-- A lookup keeps the values, whether it finds the key or not. -/
theorem All.get (h : c.All P) (key : String)
    : (c.get key).2.All P := by
  unfold Cache.get
  cases c.peek? key with
  | none => exact h
  | some value => exact h

/-- What a lookup finds is related to its key, since it stands under it. -/
theorem All.of_get (h : c.All P) {key : String} {value : α} (found : (c.get key).1 = some value)
    : P key value := by
  have stored : c.peek? key = some value := by
    unfold Cache.get at found
    cases hp : c.peek? key with
    | none => simp [hp] at found
    | some stored => simpa [hp] using found
  exact h (key, value) (Value.mem_of_lookup stored)

/-- Giving up a key keeps the values of the others. -/
theorem All.evict (h : c.All P)
    : c.evict.All P := by
  unfold Cache.evict
  cases oldest? c.lastUsed with
  | none => exact h
  | some oldest =>
      intro e member
      exact h e (List.mem_filter.mp member).1

/-- Storing a related value under its key keeps all values related, also when a key has to give
way. -/
theorem All.set (h : c.All P) {key : String} {value : α} (hv : P key value)
    : (c.set key value).All P := by
  have room : (if c.capacity.size ≤ c.size ∧ c.holds key = false then c.evict else c).All P := by
    split
    · exact h.evict
    · exact h
  intro e member
  rcases Value.mem_put member with rfl | old
  · exact hv
  · exact room e old

end Cache

-----------------------------------------------------------------------------------------
-- The cache of a mapper
-----------------------------------------------------------------------------------------

namespace Mapper

/-- The ranking of some tokens without a cache. -/
def ranking (m : Mapper) (tokens : List String) : List ColumnMatch :=
  Matching.rank m.schema m.minScore (Matching.tokensOfKey (Matching.cacheKey tokens))

/-- Holds when every remembered ranking is the one that its key stands for on the published
schema. -/
def Faithful (m : Mapper) : Prop :=
  ∀ p, m.published = some p →
    p.cache.All fun key found =>
      found = Matching.rank p.schema m.minScore (Matching.tokensOfKey key)

/-- Nothing is remembered for a schema that was just published. -/
theorem faithful_publish (m : Mapper) (schema : Schema) (capacity : Capacity)
    : (m.publish schema capacity).Faithful := by
  rintro p ⟨⟩
  exact Cache.all_empty _ capacity

/-- Ranking keeps the least score and the schema, whatever the cache holds. -/
theorem rank_keeps (m : Mapper) (tokens : List String)
    : (m.rank tokens).2.minScore = m.minScore
      ∧ (m.rank tokens).2.published.map Published.schema = m.published.map Published.schema := by
  unfold rank
  split
  · exact ⟨rfl, rfl⟩
  · next p hp =>
      simp only [hp]
      split <;> exact ⟨rfl, rfl⟩

/-- A ranking is the one made without a cache: a remembered one by faithfulness, a new one
because it is made from the same key. -/
theorem Faithful.rank_fst {m : Mapper} (h : m.Faithful) (tokens : List String)
    : (m.rank tokens).1 = m.ranking tokens := by
  unfold rank ranking schema
  cases hp : m.published with
  | none => simp [Matching.rank, Matching.candidates]
  | some p =>
      simp only [Option.map_some, Option.getD_some]
      split
      · next found cache hg => exact (h p hp).of_get (by rw [hg])
      · rfl

/-- Ranking leaves a faithful mapper, whether the ranking was remembered or is from now on. -/
theorem Faithful.rank_snd {m : Mapper} (h : m.Faithful) (tokens : List String)
    : (m.rank tokens).2.Faithful := by
  unfold rank
  cases hp : m.published with
  | none => simpa [hp] using h
  | some p =>
      have looked := (h p hp).get (Matching.cacheKey tokens)
      simp only
      split
      · next found cache hg =>
          rw [hg] at looked
          rintro q ⟨⟩
          exact looked
      · next cache hg =>
          rw [hg] at looked
          rintro q ⟨⟩
          exact looked.set rfl

end Mapper

-----------------------------------------------------------------------------------------
-- Where ranked columns come from
-----------------------------------------------------------------------------------------

/-- Every ranked match names a column of the schema with its table. -/
theorem Matching.mem_rank {schema : Schema} {minScore : Number.Binary64} {tokens : List String}
    {m : ColumnMatch} (h : m ∈ Matching.rank schema minScore tokens)
    : ∃ table ∈ schema.tables, ∃ column ∈ table.columns,
        m.table = table.name ∧ m.column = column.name := by
  have candidate := (List.mergeSort_perm _ _).mem_iff.mp h
  obtain ⟨table, ht, h⟩ := List.mem_flatMap.mp candidate
  obtain ⟨column, hc, h⟩ := List.mem_flatMap.mp h
  obtain ⟨token, _, h⟩ := List.mem_filterMap.mp h
  refine ⟨table, ht, column, hc, ?_⟩
  dsimp only at h
  split at h
  · obtain rfl := Option.some.inj h
    exact ⟨rfl, rfl⟩
  · exact absurd h (by simp)

end RideQuestions
