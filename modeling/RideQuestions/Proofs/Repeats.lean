import Mathlib.Data.List.Basic

/-! Lists without repeats. Of items that stand several times the first is kept, so that the order is
that of first places.
-/

namespace RideQuestions

variable {α : Type}

/-- Nothing stands twice where repeats are left out, by recursion on what is left of the list. -/
theorem nodup_eraseDups [BEq α] [LawfulBEq α] (items : List α)
    : items.eraseDups.Nodup := by
  cases items with
  | nil => exact List.nodup_nil
  | cons first rest =>
      rw [List.eraseDups_cons, List.nodup_cons, List.mem_eraseDups]
      exact ⟨by simp, nodup_eraseDups (rest.filter fun item => !item == first)⟩
termination_by items.length
decreasing_by exact Nat.lt_succ_of_le (List.length_filter_le _ _)

/-- One more item at the end changes what is left without repeats only if it is new. -/
theorem eraseDups_concat [BEq α] [LawfulBEq α] (items : List α) (item : α)
    : (items ++ [item]).eraseDups
      = if item ∈ items then items.eraseDups else items.eraseDups ++ [item] := by
  rw [List.eraseDups_append]
  by_cases stands : item ∈ items <;> simp [List.removeAll, stands, List.eraseDups_cons]

/-- An item stands in a list left of all places of another one. -/
def StandsBefore (items : List α) (a b : α) : Prop :=
  a ≠ b ∧ ∃ us vs, items = us ++ a :: vs ∧ b ∉ us

variable {items : List α} {a b : α}

theorem StandsBefore.cons (h : StandsBefore items a b) {first : α} (differ : first ≠ b)
    : StandsBefore (first :: items) a b := by
  obtain ⟨other, us, vs, split, absent⟩ := h
  refine ⟨other, first :: us, vs, by rw [split]; rfl, fun member => ?_⟩
  rcases List.mem_cons.mp member with same | member
  · exact differ same.symm
  · exact absent member

/-- Items that are left out do not matter. -/
theorem StandsBefore.of_filter {p : α → Bool} (h : StandsBefore (items.filter p) a b)
    (kept : p b = true)
    : StandsBefore items a b := by
  obtain ⟨differ, us, vs, split, absent⟩ := h
  obtain ⟨front, rest, rfl, rfl, later⟩ := List.filter_eq_append_iff.mp split
  obtain ⟨between, behind, rfl, dropped, _, _⟩ := List.filter_eq_cons_iff.mp later
  refine ⟨differ, front ++ between, behind, by rw [List.append_assoc], fun member => ?_⟩
  rcases List.mem_append.mp member with member | member
  · exact absent (List.mem_filter.mpr ⟨member, kept⟩)
  · exact dropped b member kept

/-- What is left without repeats keeps the order of first places, by recursion on what is left. -/
theorem pairwise_eraseDups [BEq α] [LawfulBEq α] (items : List α)
    : items.eraseDups.Pairwise (StandsBefore items) := by
  cases items with
  | nil => exact List.Pairwise.nil
  | cons first rest =>
      have other {b : α} (member : b ∈ (rest.filter fun item => !item == first).eraseDups)
          : (!b == first) = true := by
        rw [List.mem_eraseDups, List.mem_filter] at member
        exact member.2
      rw [List.eraseDups_cons, List.pairwise_cons]
      refine ⟨fun b member => ?_, ?_⟩
      · exact ⟨fun same => by simpa [same] using other member, [], rest, rfl, List.not_mem_nil⟩
      · refine (pairwise_eraseDups _).imp_of_mem fun {a b} _ member before => ?_
        exact (before.of_filter (other member)).cons fun same => by
          simpa [same] using other member
termination_by items.length
decreasing_by exact Nat.lt_succ_of_le (List.length_filter_le _ _)

/-- What has no repeats is left as it is, by induction. -/
theorem eraseDups_eq_self [BEq α] [LawfulBEq α] (distinct : items.Nodup)
    : items.eraseDups = items := by
  induction items with
  | nil => rfl
  | cons first rest ih =>
      obtain ⟨fresh, distinct⟩ := List.nodup_cons.mp distinct
      have kept : rest.filter (fun item => !item == first) = rest := by
        refine List.filter_eq_self.mpr fun item member => ?_
        have differ : item ≠ first := fun same => fresh (same ▸ member)
        simpa using differ
      rw [List.eraseDups_cons, kept, ih distinct]

end RideQuestions
