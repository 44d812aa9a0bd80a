import RideQuestions.Proofs.Matching.Order
import RideQuestions.Proofs.Question.Tokens

/-! Which questions share a remembered ranking. The key of a question spells its tokens and can be
read back, so that two questions have one key exactly when they have the same tokens, and a ranking
is remembered for a question only once one with the same tokens was asked.
-/

namespace RideQuestions

-----------------------------------------------------------------------------------------
-- Keys that are remembered
-----------------------------------------------------------------------------------------

namespace Cache

variable {α : Type}

/-- What was stored last is found under its key. -/
theorem holds_set (c : Cache α) (key : String) (value : α)
    : (c.set key value).holds key = true := by
  have found : (c.set key value).peek? key = some value := by
    unfold Cache.set
    exact Value.lookup_put.trans (if_pos rfl)
  rw [holds, found]
  rfl

/-- A lookup that finds its key leaves it there. -/
theorem holds_of_get {c cache : Cache α} {key : String} {value : α}
    (hit : c.get key = (some value, cache))
    : cache.holds key = true := by
  unfold Cache.get at hit
  split at hit
  · exact absurd (congrArg Prod.fst hit) (by simp)
  · next stored found =>
      obtain rfl := congrArg Prod.snd hit
      exact Option.isSome_iff_exists.mpr ⟨stored, found⟩

end Cache

namespace Mapper

/-- Whether a ranking is remembered for a set of tokens. -/
def remembers (m : Mapper) (tokens : List String) : Bool :=
  m.published.any fun p => p.cache.holds (Matching.cacheKey tokens)

/-- Holds when every key that something is remembered under has a property. -/
def KeysSatisfy (m : Mapper) (P : String → Prop) : Prop :=
  ∀ p, m.published = some p → p.cache.All fun key _ => P key

variable {m : Mapper} {P : String → Prop} {tokens : List String}

/-- Nothing is remembered right after a schema was published. -/
theorem keysSatisfy_publish (m : Mapper) (schema : Schema) (capacity : Capacity)
    (P : String → Prop)
    : (m.publish schema capacity).KeysSatisfy P := by
  rintro p ⟨⟩
  exact Cache.all_empty _ capacity

/-- A ranking is remembered under no key but that of its own tokens. -/
theorem KeysSatisfy.rank (h : m.KeysSatisfy P) (own : P (Matching.cacheKey tokens))
    : (m.rank tokens).2.KeysSatisfy P := by
  unfold Mapper.rank
  cases published : m.published with
  | none => simpa [published] using h
  | some p =>
      have looked := (h p published).get (Matching.cacheKey tokens)
      dsimp only
      split
      · next found cache hit =>
          rw [hit] at looked
          rintro q ⟨⟩
          exact looked
      · next cache miss =>
          rw [miss] at looked
          rintro q ⟨⟩
          exact looked.set own

/-- Rankings are remembered under no keys but those of their tokens, by induction. -/
theorem KeysSatisfy.ranked (h : m.KeysSatisfy P) {earlier : List (List String)}
    (own : ∀ tokens ∈ earlier, P (Matching.cacheKey tokens))
    : (m.ranked earlier).KeysSatisfy P := by
  induction earlier generalizing m with
  | nil => exact h
  | cons tokens earlier ih =>
      obtain ⟨first, own⟩ := List.forall_mem_cons.mp own
      exact ih (h.rank first) own

/-- Whoever remembers something for a set of tokens remembers it under their key. -/
theorem KeysSatisfy.of_remembers (h : m.KeysSatisfy P) (found : m.remembers tokens = true)
    : P (Matching.cacheKey tokens) := by
  obtain ⟨p, published, held⟩ := (Option.any_eq_true _ _).mp found
  obtain ⟨value, stored⟩ := Option.isSome_iff_exists.mp held
  exact h p published _ (Value.mem_of_lookup stored)

/-- A ranking that was just asked for is remembered, whether it was found or made. -/
theorem remembers_rank (inUse : m.published.isSome = true) (tokens : List String)
    : (m.rank tokens).2.remembers tokens = true := by
  obtain ⟨p, published⟩ := Option.isSome_iff_exists.mp inUse
  unfold rank
  rw [published]
  dsimp only
  split
  · next found cache hit => exact Cache.holds_of_get hit
  · exact Cache.holds_set _ _ _

/-- Rankings leave a schema in use, by induction. -/
theorem isSome_published_ranked (inUse : m.published.isSome = true) (earlier : List (List String))
    : (m.ranked earlier).published.isSome = true := by
  induction earlier generalizing m with
  | nil => exact inUse
  | cons tokens earlier ih =>
      refine ih ?_
      have kept := congrArg Option.isSome (m.rank_keeps tokens).2
      rwa [Option.isSome_map, Option.isSome_map, inUse] at kept

/-- A mapper that was asked some questions since a schema was published. -/
def asked (m : Mapper) (schema : Schema) (capacity : Capacity) (questions : List String)
    : Mapper :=
  (m.publish schema capacity).ranked (questions.map Question.tokens)

end Mapper

-----------------------------------------------------------------------------------------
-- Questions with the same tokens
-----------------------------------------------------------------------------------------

namespace Question

/-- Two questions have the same set of tokens. -/
def SameTokens (question other : String) : Prop :=
  ∀ token, token ∈ tokens question ↔ token ∈ tokens other

/-- No token of a question is mistaken in a key: none is empty or has the separator in it. -/
theorem plain_of_mem_tokens {question token : String} (member : token ∈ tokens question)
    : token ≠ "" ∧ '|' ∉ token.toList := by
  have word := isWordText_of_mem_tokens member
  refine ⟨?_, fun bar => absurd (word.whole '|' bar) (by decide)⟩
  rintro rfl
  exact word.filled rfl

/-- The key of a question is read back to its tokens in increasing order. -/
theorem tokensOfKey_of_tokens (question : String)
    : Matching.tokensOfKey (Matching.cacheKey (tokens question))
      = Matching.inOrder (tokens question) :=
  Matching.tokensOfKey_cacheKey fun _ => plain_of_mem_tokens

/-- Two questions have one key when they have the same tokens, and only then, since the tokens can
be read off it. -/
theorem cacheKey_eq_iff {question other : String}
    : Matching.cacheKey (tokens question) = Matching.cacheKey (tokens other)
      ↔ SameTokens question other := by
  constructor
  · intro same token
    have read := congrArg Matching.tokensOfKey same
    rw [tokensOfKey_of_tokens, tokensOfKey_of_tokens] at read
    rw [← Matching.mem_inOrder, read, Matching.mem_inOrder]
  · intro same
    exact congrArg (String.intercalate "|") (Matching.inOrder_congr same)

/-- The key of a question is read back to its distinct tokens in strictly increasing order, and it
is the key of exactly the questions with the same tokens. So whatever was asked since a schema was
published, a ranking is remembered for a question only if one with the same tokens was asked, and
right after such a one it is. -/
theorem cacheKey_faithful (question other : String)
    : (Matching.tokensOfKey (Matching.cacheKey (tokens question))).Pairwise (· < ·)
        ∧ (∀ token, token ∈ Matching.tokensOfKey (Matching.cacheKey (tokens question))
          ↔ token ∈ tokens question)
        ∧ (Matching.cacheKey (tokens question) = Matching.cacheKey (tokens other)
          ↔ SameTokens question other)
        ∧ ∀ (m : Mapper) (schema : Schema) (capacity : Capacity) (earlier : List String),
          ((m.asked schema capacity earlier).remembers (tokens question) = true →
            ∃ asked ∈ earlier, SameTokens question asked)
          ∧ (SameTokens question other →
            (m.asked schema capacity (earlier ++ [other])).remembers (tokens question) = true) := by
  refine ⟨?_, fun token => ?_, cacheKey_eq_iff, fun m schema capacity earlier => ⟨fun found => ?_,
    fun same => ?_⟩⟩
  · rw [tokensOfKey_of_tokens]
    exact Matching.pairwise_inOrder _
  · rw [tokensOfKey_of_tokens, Matching.mem_inOrder]
  · have keys : (m.asked schema capacity earlier).KeysSatisfy fun key =>
        ∃ asked ∈ earlier, key = Matching.cacheKey (tokens asked) := by
      refine (m.keysSatisfy_publish schema capacity _).ranked ?_
      rw [List.forall_mem_map]
      exact fun asked member => ⟨asked, member, rfl⟩
    obtain ⟨asked, member, same⟩ := keys.of_remembers found
    exact ⟨asked, member, cacheKey_eq_iff.mp same⟩
  · have last : m.asked schema capacity (earlier ++ [other])
        = ((m.asked schema capacity earlier).rank (tokens other)).2 := by
      rw [Mapper.asked, List.map_append, Mapper.ranked, List.foldl_append]
      rfl
    have inUse : (m.asked schema capacity earlier).published.isSome = true :=
      Mapper.isSome_published_ranked rfl _
    have found := Mapper.remembers_rank inUse (tokens other)
    rw [last]
    rwa [Mapper.remembers, ← cacheKey_eq_iff.mpr same] at found

/-- The same words in another order and other letters share a ranking, in a memory of one. -/
theorem cacheKey_faithful_reordered
    : Matching.cacheKey (tokens "Rainy trips in June")
          = Matching.cacheKey (tokens "june: TRIPS, rainy!")
        ∧ (Mapper.asked {} Mapper.stationSchema ⟨1, by decide⟩ ["june: TRIPS, rainy!"]).remembers
          (tokens "Rainy trips in June") = true := by
  have same : SameTokens "Rainy trips in June" "june: TRIPS, rainy!" := by
    have first : tokens "Rainy trips in June" = ["rainy", "trips", "june"] := by decide +kernel
    have second : tokens "june: TRIPS, rainy!" = ["june", "trips", "rainy"] := by decide +kernel
    intro token
    rw [first, second]
    simp only [List.mem_cons, List.not_mem_nil, or_false]
    tauto
  obtain ⟨_, _, key, shared⟩ := cacheKey_faithful "Rainy trips in June" "june: TRIPS, rainy!"
  exact ⟨key.mpr same, (shared {} Mapper.stationSchema ⟨1, by decide⟩ []).2 same⟩

end Question

end RideQuestions
