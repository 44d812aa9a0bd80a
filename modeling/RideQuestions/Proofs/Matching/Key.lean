import RideQuestions.Matching.Mapper
import RideQuestions.Proofs.Repeats
import Mathlib.Data.List.Sort
import Mathlib.Data.String.Basic

/-! The key of a set of tokens. It spells the distinct tokens in increasing order, so that only the
set matters, and it is read back to them when no token is empty or has the separator of keys in it.
-/

namespace RideQuestions.Matching

/-- The distinct ones of some tokens in increasing order. -/
def inOrder (tokens : List String) : List String :=
  tokens.eraseDups.mergeSort fun a b => decide (a ≤ b)

variable {tokens others : List String}

theorem mem_inOrder {token : String}
    : token ∈ inOrder tokens ↔ token ∈ tokens := by
  rw [inOrder, (List.mergeSort_perm _ _).mem_iff, List.mem_eraseDups]

theorem pairwise_inOrder (tokens : List String)
    : (inOrder tokens).Pairwise (· < ·) := by
  have sorted : (inOrder tokens).Pairwise fun a b => decide (a ≤ b) = true :=
    List.pairwise_mergeSort (by simpa using fun a b c => le_trans) (by simpa using le_total) _
  have distinct : (inOrder tokens).Pairwise (· ≠ ·) :=
    (List.mergeSort_perm _ _).symm.nodup (nodup_eraseDups tokens)
  exact sorted.imp₂ (fun a b least differ => lt_of_le_of_ne (of_decide_eq_true least) differ)
    distinct

/-- Only the set of tokens matters. -/
theorem inOrder_congr (same : ∀ token, token ∈ others ↔ token ∈ tokens)
    : inOrder others = inOrder tokens := by
  have distinct (tokens : List String) : (inOrder tokens).Nodup :=
    (pairwise_inOrder tokens).imp fun less => less.ne
  refine List.Perm.eq_of_pairwise (fun a b _ _ (less : a < b) (greater : b < a) => ?_)
    (pairwise_inOrder others) (pairwise_inOrder tokens) ?_
  · exact absurd greater less.asymm
  · refine (List.perm_ext_iff_of_nodup (distinct others) (distinct tokens)).mpr fun token => ?_
    rw [mem_inOrder, mem_inOrder, same]

theorem toList_cacheKey (tokens : List String)
    : (cacheKey tokens).toList = ['|'].intercalate ((inOrder tokens).map String.toList) :=
  String.toList_intercalate

/-- A key is read back to the tokens that it was made of, in increasing order. -/
theorem tokensOfKey_cacheKey (plain : ∀ token ∈ tokens, token ≠ "" ∧ '|' ∉ token.toList)
    : tokensOfKey (cacheKey tokens) = inOrder tokens := by
  have whole : ∀ piece ∈ (inOrder tokens).map String.toList, '|' ∉ piece := by
    intro piece member
    obtain ⟨token, stands, rfl⟩ := List.mem_map.mp member
    exact (plain token (mem_inOrder.mp stands)).2
  have split (some : inOrder tokens ≠ [])
      : (cacheKey tokens).toList.splitOn '|' = (inOrder tokens).map String.toList := by
    rw [toList_cacheKey]
    exact List.splitOn_intercalate '|' whole (by simpa using some)
  by_cases none : inOrder tokens = []
  · have empty : cacheKey tokens = "" := by
      rw [← String.toList_inj, toList_cacheKey, none]
      rfl
    rw [tokensOfKey, if_pos empty, none]
  · have pieces := split none
    have filled : cacheKey tokens ≠ "" := by
      intro empty
      rw [empty] at pieces
      have blank : "" ∈ inOrder tokens := by
        have piece : [] ∈ (inOrder tokens).map String.toList := by
          rw [← pieces]
          exact List.mem_singleton_self _
        obtain ⟨token, stands, same⟩ := List.mem_map.mp piece
        rwa [String.toList_eq_nil_iff.mp same] at stands
      exact (plain "" (mem_inOrder.mp blank)).1 rfl
    have same
        : (cacheKey tokens).toList.splitOnP (· = '|') = (cacheKey tokens).toList.splitOn '|' :=
      rfl
    rw [tokensOfKey, if_neg filled, same, pieces, List.map_map]
    exact List.map_id'' (fun token => String.ofList_toList) _

end RideQuestions.Matching
