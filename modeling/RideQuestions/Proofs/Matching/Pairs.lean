import Mathlib.Data.Multiset.UnionInter
import RideQuestions.Matching.Similarity
import RideQuestions.Proofs.Number.Doubles

/-! The likeness of two texts as an exact number. It is twice the pairs of neighbouring characters
that both have, each as often as the one that has it less often, over all pairs of both, and one for
texts that differ in blanks only.
-/

namespace RideQuestions.Matching

open Number Text

-----------------------------------------------------------------------------------------
-- Shared pairs
-----------------------------------------------------------------------------------------

/-- What two lists share is their intersection as multisets, by induction on the first: what it
shares with the second is taken out of that. -/
theorem sharedCount_eq_card_inter {α : Type} [comparison : BEq α] [LawfulBEq α] [DecidableEq α]
    (xs ys : List α)
    : sharedCount xs ys = ((xs : Multiset α) ∩ ys).card := by
  obtain rfl : comparison = instBEqOfDecidableEq := lawful_beq_subsingleton _ _
  induction xs generalizing ys with
  | nil => rw [sharedCount, Multiset.coe_nil, Multiset.zero_inter, Multiset.card_zero]
  | cons x xs ih =>
      rw [sharedCount, ← Multiset.cons_coe]
      by_cases member : x ∈ ys
      · rw [if_pos (List.contains_iff_mem.mpr member), ih, ← Multiset.coe_erase,
          Multiset.cons_inter_of_pos _ (Multiset.mem_coe.mpr member), Multiset.card_cons]
      · rw [if_neg (by simpa using member), ih,
          Multiset.cons_inter_of_neg _ (Multiset.mem_coe.not.mpr member)]

/-- The pairs of neighbouring characters of a text that are there once its blanks are not, each as
often as it occurs. -/
def pairs (s : String) : Multiset (Char × Char) :=
  bigrams (withoutBlanks s.toList)

theorem card_pairs (s : String)
    : (pairs s).card = (withoutBlanks s.toList).length - 1 := by
  rw [pairs, Multiset.coe_card, bigrams, List.length_zip, List.length_tail]
  exact min_eq_right (Nat.sub_le _ 1)

/-- No more pairs are shared than either text has. -/
theorem card_inter_le (first second : String)
    : (pairs first ∩ pairs second).card ≤ (pairs first).card
      ∧ (pairs first ∩ pairs second).card ≤ (pairs second).card :=
  ⟨Multiset.card_le_card Multiset.inter_le_left, Multiset.card_le_card Multiset.inter_le_right⟩

-----------------------------------------------------------------------------------------
-- The exact likeness
-----------------------------------------------------------------------------------------

def Ratio.value (r : Ratio) : ℚ :=
  r.num / r.den

/-- The likeness of two texts before it is rounded. -/
def exactSimilarity (first second : String) : ℚ :=
  (likeness first.toList second.toList).value

variable {first second : String}

/-- The likeness of texts that are not the same in all but blanks. Texts of fewer than two
characters need no case of their own, since they have no pairs. -/
theorem exactSimilarity_eq_of_ne
    (differ : withoutBlanks first.toList ≠ withoutBlanks second.toList)
    : exactSimilarity first second
      = 2 * (pairs first ∩ pairs second).card / ((pairs first).card + (pairs second).card) := by
  have count := sharedCount_eq_card_inter (bigrams (withoutBlanks first.toList))
    (bigrams (withoutBlanks second.toList))
  have total := card_pairs first
  have total' := card_pairs second
  rw [exactSimilarity, likeness, if_neg differ]
  split
  · next short =>
      have none : (pairs first ∩ pairs second).card = 0 := by
        have fewer := card_inter_le first second
        omega
      simp [Ratio.value, none]
  · next long =>
      have whole : (withoutBlanks first.toList).length + (withoutBlanks second.toList).length - 2
          = (pairs first).card + (pairs second).card := by omega
      dsimp only [Ratio.value]
      rw [whole, count]
      push_cast
      rfl

theorem exactSimilarity_eq_one
    (same : withoutBlanks first.toList = withoutBlanks second.toList)
    : exactSimilarity first second = 1 := by
  rw [exactSimilarity, likeness, if_pos same]
  exact div_one _

theorem exactSimilarity_comm (first second : String)
    : exactSimilarity first second = exactSimilarity second first := by
  by_cases same : withoutBlanks first.toList = withoutBlanks second.toList
  · rw [exactSimilarity_eq_one same, exactSimilarity_eq_one same.symm]
  · rw [exactSimilarity_eq_of_ne same, exactSimilarity_eq_of_ne (Ne.symm same),
      Multiset.inter_comm, add_comm]

theorem exactSimilarity_mem (first second : String)
    : 0 ≤ exactSimilarity first second ∧ exactSimilarity first second ≤ 1 := by
  by_cases same : withoutBlanks first.toList = withoutBlanks second.toList
  · rw [exactSimilarity_eq_one same]
    exact ⟨zero_le_one, le_rfl⟩
  · have fewer : (2 * (pairs first ∩ pairs second).card : ℚ)
        ≤ (pairs first).card + (pairs second).card := by
      have fewer := card_inter_le first second
      exact_mod_cast (by omega : 2 * (pairs first ∩ pairs second).card
        ≤ (pairs first).card + (pairs second).card)
    rw [exactSimilarity_eq_of_ne same]
    exact ⟨by positivity, div_le_one_of_le₀ fewer (by positivity)⟩

/-- All pairs of two texts are shared when they have the same ones: neither has one to spare. -/
theorem two_mul_card_inter_eq_iff (first second : String)
    : 2 * (pairs first ∩ pairs second).card = (pairs first).card + (pairs second).card
      ↔ pairs first = pairs second := by
  constructor
  · intro all
    have fewer := card_inter_le first second
    calc
      pairs first = pairs first ∩ pairs second :=
        (Multiset.eq_of_le_of_card_le Multiset.inter_le_left (by omega)).symm
      _ = pairs second := Multiset.eq_of_le_of_card_le Multiset.inter_le_right (by omega)
  · intro same
    have own : pairs second ∩ pairs second = pairs second := inf_idem (pairs second)
    rw [same, own, two_mul]

/-- Texts are wholly alike when they differ in blanks only, or when they have pairs and the same
ones. -/
theorem exactSimilarity_eq_one_iff
    : exactSimilarity first second = 1
      ↔ withoutBlanks first.toList = withoutBlanks second.toList
        ∨ 2 ≤ (withoutBlanks first.toList).length ∧ 2 ≤ (withoutBlanks second.toList).length
          ∧ pairs first = pairs second := by
  by_cases same : withoutBlanks first.toList = withoutBlanks second.toList
  · exact iff_of_true (exactSimilarity_eq_one same) (.inl same)
  · have total := card_pairs first
    have total' := card_pairs second
    rw [exactSimilarity_eq_of_ne same, or_iff_right same, ← two_mul_card_inter_eq_iff]
    constructor
    · intro one
      have filled : ((pairs first).card + (pairs second).card : ℚ) ≠ 0 := by
        intro empty
        rw [empty, div_zero] at one
        exact zero_ne_one one
      have all : 2 * (pairs first ∩ pairs second).card
          = (pairs first).card + (pairs second).card := by
        exact_mod_cast (div_eq_one_iff_eq filled).mp one
      have equal := congrArg Multiset.card ((two_mul_card_inter_eq_iff first second).mp all)
      have some : (pairs first).card + (pairs second).card ≠ 0 := by exact_mod_cast filled
      exact ⟨by omega, by omega, all⟩
    · rintro ⟨long, _, all⟩
      have filled : ((pairs first).card + (pairs second).card : ℚ) ≠ 0 := by
        exact_mod_cast (by omega : (pairs first).card + (pairs second).card ≠ 0)
      rw [div_eq_one_iff_eq filled]
      exact_mod_cast all

/-- Texts are not alike at all when they differ in more than blanks and share no pair. -/
theorem exactSimilarity_eq_zero_iff
    : exactSimilarity first second = 0
      ↔ withoutBlanks first.toList ≠ withoutBlanks second.toList
        ∧ ∀ pair ∈ pairs first, pair ∉ pairs second := by
  by_cases same : withoutBlanks first.toList = withoutBlanks second.toList
  · rw [exactSimilarity_eq_one same]
    exact iff_of_false one_ne_zero fun differ => differ.1 same
  · rw [exactSimilarity_eq_of_ne same, and_iff_right same, ← Multiset.disjoint_left,
      ← Multiset.inter_eq_zero_iff_disjoint, ← Multiset.card_eq_zero]
    have fewer := card_inter_le first second
    rw [div_eq_zero_iff]
    constructor
    · rintro (none | none)
      · exact_mod_cast (mul_eq_zero.mp none).resolve_left two_ne_zero
      · have none : (pairs first).card + (pairs second).card = 0 := by exact_mod_cast none
        omega
    · intro none
      rw [none, Nat.cast_zero, mul_zero]
      exact .inl rfl

/-- Blanks put anywhere into a text change no likeness. -/
theorem withoutBlanks_insert {blanks : List Char} (whole : ∀ c ∈ blanks, isBlank c = true)
    (front back : List Char)
    : withoutBlanks (front ++ blanks ++ back) = withoutBlanks (front ++ back) := by
  have none : withoutBlanks blanks = [] :=
    List.filter_eq_nil_iff.mpr fun c member => by simp [whole c member]
  have parts (s t : List Char) : withoutBlanks (s ++ t) = withoutBlanks s ++ withoutBlanks t :=
    List.filter_append s t
  rw [parts, parts, none, List.append_nil, ← parts]

/-- The likeness that is computed is the exact one, rounded once. -/
theorem nearest_similarity (first second : String)
    : Binary64.Nearest (exactSimilarity first second) (similarity first second) :=
  Binary64.nearest_ofRatio false _ (likeness first.toList second.toList).den_pos

end RideQuestions.Matching
