import RideQuestions.Matching.Score
import RideQuestions.Proofs.Matching.Pairs
import RideQuestions.Proofs.Number.Greatest

/-! The score of a token against a column, weighed with exact numbers. It is the greatest of what
containment, a synonym and likeness say, with the bonus of the table, and what is computed is the
same weighing with every number rounded.
-/

namespace RideQuestions.Matching

open Number Text

-----------------------------------------------------------------------------------------
-- Weighing with any numbers
-----------------------------------------------------------------------------------------

/-- Numbers to weigh evidence with. -/
structure Arithmetic (α : Type) where
  ofRatio : Nat → Nat → α
  less : α → α → Bool
  add : α → α → α

/-- Doubles, every result rounded. -/
def Arithmetic.rounded : Arithmetic Binary64 :=
  ⟨Binary64.ofRatio false, fun x y => decide (x.orderKey < y.orderKey), Binary64.add⟩

/-- Ratios without rounding. -/
def Arithmetic.exact : Arithmetic ℚ :=
  ⟨fun num den => num / den, fun x y => decide (x < y), (· + ·)⟩

theorem Arithmetic.less_rounded_iff {x y : Binary64}
    : Arithmetic.rounded.less x y = true ↔ x.orderKey < y.orderKey :=
  decide_eq_true_iff

theorem Arithmetic.less_exact_iff {x y : ℚ}
    : Arithmetic.exact.less x y = true ↔ x < y :=
  decide_eq_true_iff

namespace Evidence

variable {α : Type}

/-- What containment or a synonym weighs. A synonym is asked for only where token and column do not
contain one another. -/
def stated (numbers : Arithmetic α) (e : Evidence) : α :=
  if e.contained then numbers.ofRatio 9 10
  else if e.synonym then numbers.ofRatio 8 10
  else numbers.ofRatio 0 1

/-- What evidence weighs before the table is looked at. -/
def base (numbers : Arithmetic α) (e : Evidence) : α :=
  let alike := numbers.ofRatio e.likeness.num e.likeness.den
  if numbers.less (e.stated numbers) alike then alike else e.stated numbers

/-- What evidence weighs. -/
def weigh (numbers : Arithmetic α) (e : Evidence) : α :=
  if e.tableContained then numbers.add (e.base numbers) (numbers.ofRatio 1 10)
  else e.base numbers

/-- A score is evidence weighed with rounded numbers. -/
theorem score_eq_weigh (e : Evidence)
    : e.score = e.weigh .rounded := by
  have zero : Binary64.zeroOf false = Binary64.ofRatio false 0 1 := rfl
  simp only [score, weigh, base, stated, Arithmetic.rounded, greater, containmentScore,
    synonymScore, tableBonus, zero, decide_eq_true_eq]

-----------------------------------------------------------------------------------------
-- Exact numbers
-----------------------------------------------------------------------------------------

/-- A synonym next to containment would change nothing, so that asking for it or not is the same. -/
theorem stated_exact (e : Evidence)
    : e.stated .exact
      = max (if e.contained then 9 / 10 else 0) (if e.synonym then 8 / 10 else 0) := by
  unfold stated Arithmetic.exact
  cases e.contained <;> cases e.synonym <;> norm_num

/-- Exact evidence weighs the greater of what is stated and the likeness. -/
theorem base_exact (e : Evidence)
    : e.base .exact = max (e.stated .exact) e.likeness.value := by
  have alike : Arithmetic.exact.ofRatio e.likeness.num e.likeness.den = e.likeness.value := rfl
  rw [base, alike]
  by_cases less : e.stated .exact < e.likeness.value
  · rw [if_pos (Arithmetic.less_exact_iff.mpr less), max_eq_right less.le]
  · rw [if_neg (Arithmetic.less_exact_iff.not.mpr less), max_eq_left (not_lt.mp less)]

/-- The table adds its bonus. -/
theorem weigh_exact (e : Evidence)
    : e.weigh .exact = e.base .exact + if e.tableContained then 1 / 10 else 0 := by
  rw [weigh]
  cases e.tableContained with
  | false => exact (add_zero _).symm
  | true => simp [Arithmetic.exact]

/-- Exact evidence weighs at most one and a tenth. -/
theorem weigh_exact_mem {e : Evidence} (part : 0 ≤ e.likeness.value ∧ e.likeness.value ≤ 1)
    : 0 ≤ e.weigh .exact ∧ e.weigh .exact ≤ 11 / 10 := by
  have stated : e.stated .exact ≤ 1 := by
    rw [stated_exact]
    cases e.contained <;> cases e.synonym <;> norm_num
  have least : 0 ≤ e.base .exact := by
    rw [base_exact]
    exact le_max_of_le_right part.1
  have greatest : e.base .exact ≤ 1 := by
    rw [base_exact]
    exact max_le stated part.2
  rw [weigh_exact]
  split <;> constructor <;> linarith

-----------------------------------------------------------------------------------------
-- Rounded numbers
-----------------------------------------------------------------------------------------

/-- A part of one is rounded to the nearest double, which is finite and has no sign. -/
theorem rounded_part (num den : ℕ) (positive : 0 < den) (part : (num / den : ℚ) ≤ 1)
    : Binary64.Nearest (num / den) (Binary64.ofRatio false num den)
      ∧ (Binary64.ofRatio false num den).isFinite = true
      ∧ (Binary64.ofRatio false num den).negative = false := by
  have near : Binary64.Nearest (num / den) (Binary64.ofRatio false num den) :=
    Binary64.nearest_ofRatio false num positive
  exact ⟨near, near.isFinite_of_le_one (by positivity) part,
    Binary64.negative_ofRatio false num positive⟩

/-- What is stated is rounded, whichever of the three numbers it is. -/
theorem rounded_stated (e : Evidence)
    : Binary64.Nearest (e.stated .exact) (e.stated .rounded)
      ∧ (e.stated .rounded).isFinite = true ∧ (e.stated .rounded).negative = false := by
  unfold stated
  cases e.contained with
  | true => exact rounded_part 9 10 (by decide) (by norm_num)
  | false =>
      cases e.synonym with
      | true => exact rounded_part 8 10 (by decide) (by norm_num)
      | false => exact rounded_part 0 1 (by decide) (by norm_num)

/-- The base that is computed is nearest to the exact one: the greater of two rounded numbers is the
greater of the two, rounded. -/
theorem nearest_base {e : Evidence} (part : e.likeness.value ≤ 1)
    : Binary64.Nearest (e.base .exact) (e.base .rounded) := by
  obtain ⟨near, finite, positive⟩ := e.rounded_stated
  obtain ⟨near', finite', positive'⟩ := rounded_part _ _ e.likeness.den_pos part
  have greatest := near.greater near' finite finite' positive positive'
  rw [base_exact, base]
  simp only [Arithmetic.less_rounded_iff]
  exact greatest

end Evidence

-----------------------------------------------------------------------------------------
-- Scores
-----------------------------------------------------------------------------------------

/-- Two texts contain one another. -/
def Overlapping (first second : String) : Prop :=
  first.toList <:+: second.toList ∨ second.toList <:+: first.toList

instance (first second : String) : Decidable (Overlapping first second) :=
  inferInstanceAs (Decidable (_ ∨ _))

theorem overlap_iff {first second : String}
    : overlap first second = true ↔ Overlapping first second := by
  rw [overlap, Bool.or_eq_true, holds, holds, occursIn_iff, occursIn_iff, Overlapping]

/-- The score of a token against a column of a table before anything is rounded. -/
def exactScore (token column table : String) : ℚ :=
  (evidence token column table).weigh .exact

section Scores

variable (token column table : String)

theorem likeness_evidence
    : (evidence token column table).likeness.value = exactSimilarity token (lower column) :=
  rfl

/-- An exact score is the greatest of what containment, a synonym and likeness say, and the bonus of
the table. -/
theorem exactScore_eq
    : exactScore token column table
      = max (max (if Overlapping token (lower column) then 9 / 10 else 0)
            (if ∃ synonym ∈ synonyms token, Overlapping synonym (lower column) then 8 / 10 else 0))
          (exactSimilarity token (lower column))
        + if Overlapping token (lower table) then 1 / 10 else 0 := by
  have contained : (evidence token column table).contained = true
      ↔ Overlapping token (lower column) := overlap_iff
  have synonym : (evidence token column table).synonym = true
      ↔ ∃ synonym ∈ synonyms token, Overlapping synonym (lower column) := by
    rw [evidence, List.any_eq_true]
    exact exists_congr fun synonym => and_congr_right fun _ => overlap_iff
  have inTable : (evidence token column table).tableContained = true
      ↔ Overlapping token (lower table) := overlap_iff
  rw [exactScore, Evidence.weigh_exact, Evidence.base_exact, Evidence.stated_exact,
    likeness_evidence]
  simp only [contained, synonym, inTable]

theorem exactScore_mem
    : 0 ≤ exactScore token column table ∧ exactScore token column table ≤ 11 / 10 :=
  Evidence.weigh_exact_mem (exactSimilarity_mem token (lower column))

end Scores

/-- The exact likeness of two texts does not depend on their order or on blanks anywhere in them and
lies between zero and one; for texts that differ in more than blanks it is twice the shared pairs of
neighbouring characters over all pairs. It is one exactly for texts that are the same without their
blanks or have pairs and the same ones as often, and zero exactly for texts that are not the same
and share no pair. The exact score of a token against a column is the greatest of nine tenths where
they contain one another, eight tenths where the column and a synonym do, and their likeness, and a
tenth more where token and table contain one another. What is computed is the likeness rounded to
the nearest double, and the same weighing of rounded numbers, whose base is nearest to the exact
one. -/
theorem exact_scoring (first second token column table : String)
    : exactSimilarity first second = exactSimilarity second first
        ∧ (∀ front blanks back : String, (∀ c ∈ blanks.toList, isBlank c = true) →
          exactSimilarity (front ++ blanks ++ back) second = exactSimilarity (front ++ back) second)
        ∧ (0 ≤ exactSimilarity first second ∧ exactSimilarity first second ≤ 1)
        ∧ (withoutBlanks first.toList ≠ withoutBlanks second.toList →
          exactSimilarity first second
            = 2 * (pairs first ∩ pairs second).card
              / ((pairs first).card + (pairs second).card))
        ∧ (exactSimilarity first second = 1
          ↔ withoutBlanks first.toList = withoutBlanks second.toList
            ∨ 2 ≤ (withoutBlanks first.toList).length ∧ 2 ≤ (withoutBlanks second.toList).length
              ∧ pairs first = pairs second)
        ∧ (exactSimilarity first second = 0
          ↔ withoutBlanks first.toList ≠ withoutBlanks second.toList
            ∧ ∀ pair ∈ pairs first, pair ∉ pairs second)
        ∧ Binary64.Nearest (exactSimilarity first second) (similarity first second)
        ∧ exactScore token column table
          = max (max (if Overlapping token (lower column) then 9 / 10 else 0)
                (if ∃ synonym ∈ synonyms token, Overlapping synonym (lower column) then 8 / 10
                  else 0))
              (exactSimilarity token (lower column))
            + (if Overlapping token (lower table) then 1 / 10 else 0)
        ∧ (0 ≤ exactScore token column table ∧ exactScore token column table ≤ 11 / 10)
        ∧ scoreColumn token column table = (evidence token column table).weigh .rounded
        ∧ Binary64.Nearest ((evidence token column table).base .exact)
          ((evidence token column table).base .rounded) := by
  refine ⟨exactSimilarity_comm first second, fun front blanks back whole => ?_,
    exactSimilarity_mem first second, exactSimilarity_eq_of_ne, exactSimilarity_eq_one_iff,
    exactSimilarity_eq_zero_iff, nearest_similarity first second,
    exactScore_eq token column table, exactScore_mem token column table,
    Evidence.score_eq_weigh _, ?_⟩
  · have same := withoutBlanks_insert whole front.toList back.toList
    rw [exactSimilarity, exactSimilarity, likeness, likeness]
    simp only [String.toList_append, same]
  · exact Evidence.nearest_base (exactSimilarity_mem token (lower column)).2

/-- Two texts that have the same pairs in another order are wholly alike, and a blank inside changes
nothing. -/
theorem exact_scoring_reordered
    : exactSimilarity ("aab" ++ "\t " ++ "aba") "abaaba" = 1
        ∧ withoutBlanks "aababa".toList ≠ withoutBlanks "abaaba".toList := by
  obtain ⟨_, blanks, _, _, one, _⟩ :=
    exact_scoring "aababa" "abaaba" "station" "station_name" "stations"
  have whole : ∀ c ∈ "\t ".toList, isBlank c = true := List.all_eq_true.mp (by decide)
  refine ⟨(blanks "aab" "\t " "aba" whole).trans (one.mpr (.inr ?_)), by decide⟩
  exact ⟨by decide, by decide, by decide⟩

end RideQuestions.Matching
