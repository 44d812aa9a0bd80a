import RideQuestions.Cache
import RideQuestions.Matching.Ranking

/-! The published schema with the rankings already made for it. Both are replaced together, so a
ranking is never served for another schema.
-/

namespace RideQuestions

open Number

namespace Matching

/-- The key of a set of tokens, which does not depend on their order. -/
def cacheKey (tokens : List String) : String :=
  String.intercalate "|" (tokens.eraseDups.mergeSort (fun a b => decide (a ≤ b)))

/-- The tokens that a key stands for. -/
def tokensOfKey (key : String) : List String :=
  if key = "" then []
  else (key.toList.splitOnP (· = '|')).map String.ofList

end Matching

/-- A schema and the rankings made for it, by token set. -/
structure Published where
  schema : Schema
  cache : Cache (List ColumnMatch)

structure Mapper where
  minScore : Binary64 := Matching.defaultMinScore
  published : Option Published := none

namespace Mapper

/-- The schema in use; without a published one there are no tables. -/
def schema (m : Mapper) : Schema :=
  (m.published.map Published.schema).getD {}

/-- Publishes a schema together with an empty cache. -/
def publish (m : Mapper) (schema : Schema) (capacity : Capacity) : Mapper :=
  { m with published := some ⟨schema, Cache.empty capacity⟩ }

/-- The ranking for some tokens, from the cache if their set was ranked before. -/
def rank (m : Mapper) (tokens : List String) : List ColumnMatch × Mapper :=
  match m.published with
  | none => ([], m)
  | some p =>
      let key := Matching.cacheKey tokens
      match p.cache.get key with
      | (some found, cache) => (found, { m with published := some { p with cache } })
      | (none, cache) =>
          let found := Matching.rank p.schema m.minScore (Matching.tokensOfKey key)
          (found, { m with published := some { p with cache := cache.set key found } })

end Mapper

end RideQuestions
