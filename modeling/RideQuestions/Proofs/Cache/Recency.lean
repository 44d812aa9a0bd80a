import Mathlib.Data.Finset.Card

/-! Keys in the order of their latest use. A key stands behind exactly the distinct keys that were
used since its own latest use, so the first `n` keys are those since whose use fewer than `n` others
were used.
-/

namespace RideQuestions.Cache

variable {key other : String} {order uses : List String} {n : Nat}

/-- The order of latest use after a key was used: the key moves to the front. -/
def moveToFront (key : String) (order : List String) : List String :=
  key :: order.filter (· ≠ key)

/-- The keys of some uses, each once, the one used latest first; the uses are given latest
first. -/
def recency : List String → List String
  | [] => []
  | key :: earlier => moveToFront key (recency earlier)

/-- The other keys used since the latest use of a key. -/
def othersSince (key : String) (uses : List String) : Finset String :=
  (uses.takeWhile (· ≠ key)).toFinset

theorem mem_moveToFront
    : other ∈ moveToFront key order ↔ other = key ∨ other ∈ order := by
  simp only [moveToFront, List.mem_cons, List.mem_filter, decide_eq_true_eq]
  by_cases same : other = key <;> simp [same]

theorem nodup_moveToFront (distinct : order.Nodup)
    : (moveToFront key order).Nodup := by
  refine List.nodup_cons.mpr ⟨?_, distinct.filter _⟩
  intro member
  exact of_decide_eq_true (List.mem_filter.mp member).2 rfl

theorem filter_ne_of_not_mem (absent : key ∉ order)
    : order.filter (· ≠ key) = order := by
  apply List.filter_eq_self.mpr
  intro other member
  exact decide_eq_true fun same => absent (same ▸ member)

/-- A key that is new stands in front of all others. -/
theorem moveToFront_of_not_mem (absent : key ∉ order)
    : moveToFront key order = key :: order := by
  rw [moveToFront, filter_ne_of_not_mem absent]

/-- A key that is not new makes the list no longer. -/
theorem length_moveToFront_le (member : key ∈ order)
    : (moveToFront key order).length ≤ order.length :=
  List.length_filter_lt_length_iff_exists.mpr ⟨key, member, by simp⟩

theorem mem_recency
    : key ∈ recency uses ↔ key ∈ uses := by
  induction uses with
  | nil => rfl
  | cons latest earlier ih => rw [recency, mem_moveToFront, List.mem_cons, ih]

theorem nodup_recency (uses : List String)
    : (recency uses).Nodup := by
  induction uses with
  | nil => exact List.nodup_nil
  | cons latest earlier ih => exact nodup_moveToFront ih

/-- The keys in front of a key are the keys used since, by induction over the uses: a later use of
another key moves that key to the front and takes it out from wherever it stood. -/
theorem mem_takeWhile_recency
    : other ∈ (recency uses).takeWhile (· ≠ key) ↔ other ∈ uses.takeWhile (· ≠ key) := by
  induction uses with
  | nil => rfl
  | cons latest earlier ih =>
      rw [recency, moveToFront]
      by_cases same : latest = key
      · simp [same]
      · have passes : (fun k => !decide (k ≠ latest) || decide (k ≠ key))
            = fun k => decide (k ≠ key) := by
          funext k
          by_cases hk : k = latest <;> simp [hk, same]
        rw [List.takeWhile_cons_of_pos (by simpa using same),
          List.takeWhile_cons_of_pos (by simpa using same), List.takeWhile_filter, passes,
          List.mem_cons, List.mem_cons, List.mem_filter, ih]
        by_cases hk : other = latest <;> simp [hk]

/-- A key of a list without repetition is among the first `n` exactly when fewer than `n` keys
stand in front of it. -/
theorem mem_take_iff_of_nodup (distinct : order.Nodup) (member : key ∈ order)
    : key ∈ order.take n ↔ (order.takeWhile (· ≠ key)).length < n := by
  induction order generalizing n with
  | nil => exact absurd member List.not_mem_nil
  | cons first rest ih =>
      obtain ⟨absent, distinct⟩ := List.nodup_cons.mp distinct
      cases n with
      | zero => simp
      | succ m =>
          rw [List.take_succ_cons, List.mem_cons]
          by_cases same : first = key
          · simp [same]
          · have behind : key ∈ rest :=
              (List.mem_cons.mp member).resolve_left fun h => same h.symm
            have differ : key ≠ first := fun h => same h.symm
            rw [List.takeWhile_cons_of_pos (by simpa using same), List.length_cons,
              Nat.add_lt_add_iff_right, ← ih distinct behind]
            simp [differ]

/-- The first `n` keys by latest use are those used at all since whose latest use fewer than `n`
other keys were used. -/
theorem mem_take_recency_iff
    : key ∈ (recency uses).take n ↔ key ∈ uses ∧ (othersSince key uses).card < n := by
  have inFront : ((recency uses).takeWhile (· ≠ key)).toFinset = othersSince key uses := by
    ext other
    rw [othersSince, List.mem_toFinset, List.mem_toFinset, mem_takeWhile_recency]
  have distinct : ((recency uses).takeWhile (· ≠ key)).Nodup :=
    (List.takeWhile_sublist _).nodup (nodup_recency uses)
  rw [← inFront, List.toFinset_card_of_nodup distinct]
  constructor
  · intro member
    have used := List.mem_of_mem_take member
    exact ⟨mem_recency.mp used,
      (mem_take_iff_of_nodup (nodup_recency uses) used).mp member⟩
  · rintro ⟨used, few⟩
    exact (mem_take_iff_of_nodup (nodup_recency uses) (mem_recency.mpr used)).mpr few

/-- Taking a key out of a list without repetition leaves room for one key less among the first
`n + 1`, wherever it stood. -/
theorem take_filter_take (distinct : order.Nodup)
    : ((order.take (n + 1)).filter (· ≠ key)).take n = (order.filter (· ≠ key)).take n := by
  induction order generalizing n with
  | nil => rfl
  | cons first rest ih =>
      obtain ⟨absent, distinct⟩ := List.nodup_cons.mp distinct
      rw [List.take_succ_cons, List.filter_cons, List.filter_cons]
      by_cases same : first = key
      · rw [same] at absent
        have absentTake := fun member => absent (List.mem_of_mem_take (i := n) member)
        rw [if_neg (by simpa using same), if_neg (by simpa using same),
          filter_ne_of_not_mem absentTake, filter_ne_of_not_mem absent, List.take_take,
          Nat.min_self]
      · rw [if_pos (by simpa using same), if_pos (by simpa using same)]
        cases n with
        | zero => rfl
        | succ m => rw [List.take_succ_cons, List.take_succ_cons, ih distinct]

/-- The first keys after a use depend only on the first keys before it. -/
theorem take_moveToFront_take (distinct : order.Nodup)
    : (moveToFront key (order.take n)).take n = (moveToFront key order).take n := by
  cases n with
  | zero => rfl
  | succ m =>
      rw [moveToFront, moveToFront, List.take_succ_cons, List.take_succ_cons,
        take_filter_take distinct]

end RideQuestions.Cache
