import RideQuestions.Value
import Mathlib.Algebra.GroupWithZero.Nat
import Mathlib.Data.List.Perm.Basic

/-! Entries written by key. A write changes the value of its own key and nothing else: lookups,
keys and any selection of other keys say so. Where no key stands twice, the entries after a write
are the one written and those of the other keys, and after several writes the latest of a key is
found under it.
-/

namespace RideQuestions.Value

variable {α : Type} {key other : String} {value : α} {entries : List (String × α)}

-----------------------------------------------------------------------------------------
-- Lookups
-----------------------------------------------------------------------------------------

theorem lookup_cons_ite {e : String × α}
    : (e :: entries).lookup other = if other = e.1 then some e.2 else entries.lookup other := by
  rw [List.lookup_cons]
  by_cases same : other = e.1
  · simp [same]
  · simp [same, beq_eq_false_iff_ne.mpr same]

theorem lookup?_eq_lookup (key : String) (entries : List (String × Value))
    : lookup? key entries = entries.lookup key := by
  induction entries with
  | nil => rfl
  | cons e rest ih =>
      rw [lookup_cons_ite, ← ih, lookup?, List.find?_cons]
      by_cases same : e.1 = key
      · simp [same]
      · simp [same, Ne.symm same, lookup?]

/-- A lookup after a write finds the new value under its key and all else as before. -/
theorem lookup_put
    : (put key value entries).lookup other
      = if other = key then some value else entries.lookup other := by
  induction entries with
  | nil => simp [put, lookup_cons_ite]
  | cons e rest ih =>
      rw [put]
      by_cases hk : e.1 = key
      · rw [if_pos hk, lookup_cons_ite, lookup_cons_ite, hk]
        split <;> rfl
      · rw [if_neg hk, lookup_cons_ite, lookup_cons_ite, ih]
        by_cases same : other = e.1
        · simp [same, hk]
        · simp [same]

/-- A lookup after a key was taken out finds nothing under it and all else as before. -/
theorem lookup_filter_ne
    : (entries.filter (·.1 ≠ key)).lookup other
      = if other = key then none else entries.lookup other := by
  induction entries with
  | nil => simp
  | cons e rest ih =>
      rw [List.filter_cons, lookup_cons_ite]
      by_cases hk : e.1 = key
      · rw [if_neg (by simpa using hk), ih, hk]
        split <;> rfl
      · rw [if_pos (by simpa using hk), lookup_cons_ite, ih]
        by_cases same : other = e.1
        · simp [same, hk]
        · simp [same]

/-- A value found under a key stands there. -/
theorem mem_of_lookup (found : entries.lookup key = some value)
    : (key, value) ∈ entries := by
  obtain ⟨before, behind, rfl, _⟩ := List.lookup_eq_some_iff.mp found
  exact List.mem_append_right before List.mem_cons_self

/-- A key is found exactly when it is one of the keys. -/
theorem isSome_lookup_iff
    : (entries.lookup key).isSome = true ↔ key ∈ entries.map Prod.fst := by
  rw [List.lookup_isSome_iff, List.mem_map]
  exact ⟨fun ⟨e, member, same⟩ => ⟨e, member, (beq_iff_eq.mp same).symm⟩,
    fun ⟨e, member, same⟩ => ⟨e, member, beq_iff_eq.mpr same.symm⟩⟩

-----------------------------------------------------------------------------------------
-- Keys and selections
-----------------------------------------------------------------------------------------

/-- A write keeps the keys in their places and adds its own at the end if it is new. -/
theorem keys_put
    : (put key value entries).map Prod.fst
      = if key ∈ entries.map Prod.fst then entries.map Prod.fst
        else entries.map Prod.fst ++ [key] := by
  induction entries with
  | nil => rfl
  | cons e rest ih =>
      rw [put]
      by_cases hk : e.1 = key
      · simp [hk]
      · have differ : key ≠ e.1 := fun same => hk same.symm
        simp only [hk, if_false, List.map_cons, ih, List.mem_cons, differ, false_or]
        split <;> rfl

/-- An entry after a write is the one written or was there before. -/
theorem mem_put {e : String × α} (member : e ∈ put key value entries)
    : e = (key, value) ∨ e ∈ entries := by
  induction entries with
  | nil => exact Or.inl (List.mem_singleton.mp member)
  | cons first rest ih =>
      rw [put] at member
      split at member
      · next same =>
          rcases List.mem_cons.mp member with h | h
          · exact Or.inl (h.trans (by rw [← same]))
          · exact Or.inr (List.mem_cons_of_mem first h)
      · rcases List.mem_cons.mp member with h | h
        · exact Or.inr (h ▸ List.mem_cons_self)
        · exact (ih h).imp_right (List.mem_cons_of_mem first)

/-- A write adds an entry exactly when its key is new. -/
theorem length_put
    : (put key value entries).length
      = entries.length + if (entries.lookup key).isSome then 0 else 1 := by
  have keys : ((put key value entries).map Prod.fst).length = _ := congrArg List.length keys_put
  rw [List.length_map] at keys
  rw [keys]
  by_cases stands : key ∈ entries.map Prod.fst
  · rw [if_pos stands, if_pos (isSome_lookup_iff.mpr stands), List.length_map, Nat.add_zero]
  · have unfound : ¬(entries.lookup key).isSome = true :=
      fun found => stands (isSome_lookup_iff.mp found)
    rw [if_neg stands, if_neg unfound, List.length_append, List.length_map, List.length_singleton]

theorem keys_filter_ne (entries : List (String × α)) (key : String)
    : (entries.filter (·.1 ≠ key)).map Prod.fst = (entries.map Prod.fst).filter (· ≠ key) := by
  rw [List.filter_map]
  rfl

/-- Taking out a key that does not stand there changes nothing. -/
theorem filter_ne_eq_self (absent : key ∉ entries.map Prod.fst)
    : entries.filter (·.1 ≠ key) = entries := by
  apply List.filter_eq_self.mpr
  intro e member
  exact decide_eq_true fun same => absent (List.mem_map.mpr ⟨e, member, same⟩)

/-- Where no key stands twice, a write leaves its own entry and those of all other keys. -/
theorem put_perm (distinct : (entries.map Prod.fst).Nodup)
    : (put key value entries).Perm ((key, value) :: entries.filter (·.1 ≠ key)) := by
  induction entries with
  | nil => exact .refl _
  | cons e rest ih =>
      obtain ⟨absent, distinct⟩ := List.nodup_cons.mp distinct
      rw [put, List.filter_cons]
      by_cases hk : e.1 = key
      · rw [if_pos hk, if_neg (by simpa using hk), filter_ne_eq_self (hk ▸ absent), ← hk]
      · rw [if_neg hk, if_pos (by simpa using hk)]
        exact ((ih distinct).cons e).trans (.swap _ _ _)

/-- A write under a key that is not selected does not show in the selection. -/
theorem filter_put_of_not {p : String → Bool} (unselected : p key = false)
    : (put key value entries).filter (p ·.1) = entries.filter (p ·.1) := by
  induction entries with
  | nil => simp [put, unselected]
  | cons e rest ih =>
      rw [put]
      by_cases hk : e.1 = key
      · simp [hk, unselected]
      · simp [hk, List.filter_cons, ih]

/-- A write under a key that is selected can as well be made in the selection. -/
theorem filter_put_of_pos {p : String → Bool} (selected : p key = true)
    : (put key value entries).filter (p ·.1) = put key value (entries.filter (p ·.1)) := by
  induction entries with
  | nil => simp [put, selected]
  | cons e rest ih =>
      rw [put]
      by_cases hk : e.1 = key
      · simp [hk, selected, put]
      · rw [if_neg hk, List.filter_cons, List.filter_cons, ih]
        split
        · rw [put, if_neg hk]
        · rfl

/-- A selected key is found in the selection as it is in the whole. -/
theorem lookup_filter_of_pos {p : String → Bool} (selected : p key = true)
    : (entries.filter (p ·.1)).lookup key = entries.lookup key := by
  induction entries with
  | nil => rfl
  | cons e rest ih =>
      rw [List.filter_cons, lookup_cons_ite]
      by_cases hk : key = e.1
      · rw [if_pos (hk ▸ selected), lookup_cons_ite, if_pos hk, if_pos hk]
      · rw [if_neg hk]
        split
        · rw [lookup_cons_ite, if_neg hk, ih]
        · exact ih

/-- Adding to the number under a key adds as much to the sum over a selection that holds the key,
and nothing to any other. -/
theorem sum_filter_put {numbers : List (String × Nat)} {p : String → Bool} {amount : Nat}
    : (((put key ((numbers.lookup key).getD 0 + amount) numbers).filter (p ·.1)).map
          Prod.snd).sum
      = ((numbers.filter (p ·.1)).map Prod.snd).sum + if p key then amount else 0 := by
  induction numbers with
  | nil => by_cases selected : p key = true <;> simp [put, selected]
  | cons e rest ih =>
      rw [put, lookup_cons_ite]
      by_cases hk : e.1 = key
      · rw [if_pos hk, if_pos hk.symm, Option.getD_some, List.filter_cons, List.filter_cons, hk]
        by_cases selected : p key = true
        · simp only [selected, if_true, List.map_cons, List.sum_cons]
          omega
        · simp [selected]
      · have differ : key ≠ e.1 := fun same => hk same.symm
        rw [if_neg hk, if_neg differ, List.filter_cons, List.filter_cons]
        split
        · rw [List.map_cons, List.sum_cons, List.map_cons, List.sum_cons, ih, Nat.add_assoc]
        · exact ih

-----------------------------------------------------------------------------------------
-- Several writes
-----------------------------------------------------------------------------------------

/-- Where no key stands twice, what stands under a key is found there. -/
theorem lookup_of_mem (distinct : (entries.map Prod.fst).Nodup) (member : (key, value) ∈ entries)
    : entries.lookup key = some value := by
  induction entries with
  | nil => exact absurd member List.not_mem_nil
  | cons e rest ih =>
      obtain ⟨absent, distinct⟩ := List.nodup_cons.mp distinct
      rw [lookup_cons_ite]
      rcases List.mem_cons.mp member with rfl | behind
      · exact if_pos rfl
      · have differ : key ≠ e.1 := fun same => absent (same ▸ List.mem_map_of_mem behind)
        rw [if_neg differ, ih distinct behind]

/-- A lookup after several writes finds what was written under the key, and otherwise what stood
there before, by induction on the writes. -/
theorem lookup_foldl_put {written : List (String × α)} (distinct : (written.map Prod.fst).Nodup)
    : (written.foldl (fun kept e => put e.1 e.2 kept) entries).lookup other
      = (written.lookup other).or (entries.lookup other) := by
  induction written generalizing entries with
  | nil => simp
  | cons e rest ih =>
      obtain ⟨absent, distinct⟩ := List.nodup_cons.mp distinct
      rw [List.foldl_cons, ih distinct, lookup_put, lookup_cons_ite]
      by_cases same : other = e.1
      · have unfound : rest.lookup other = none :=
          Option.not_isSome_iff_eq_none.mp fun found => absent (same ▸ isSome_lookup_iff.mp found)
        rw [if_pos same, if_pos same, unfound, Option.none_or, Option.some_or]
      · rw [if_neg same, if_neg same]

/-- Writes keep the keys apart, by induction on the writes. -/
theorem nodup_foldl_put {written : List (String × α)} (distinct : (entries.map Prod.fst).Nodup)
    : ((written.foldl (fun kept e => put e.1 e.2 kept) entries).map Prod.fst).Nodup := by
  induction written generalizing entries with
  | nil => exact distinct
  | cons e rest ih =>
      refine ih ?_
      rw [keys_put]
      split
      · exact distinct
      · next new =>
          refine List.nodup_append.mpr ⟨distinct, List.pairwise_singleton _ _, ?_⟩
          rintro stands member key single rfl
          exact new (List.mem_singleton.mp single ▸ member)

end RideQuestions.Value
