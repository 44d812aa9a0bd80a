import Mathlib.Data.List.Forall2

/-! Steps that may fail. A step after another ends well exactly when both do, and a step for each
item of a list exactly when each does.
-/

namespace RideQuestions

variable {ε α β : Type}

theorem bind_eq_ok_iff {x : Except ε α} {f : α → Except ε β} {b : β}
    : (x >>= f) = .ok b ↔ ∃ a, x = .ok a ∧ f a = .ok b := by
  cases x <;> simp [bind, Except.bind]

theorem map_eq_ok_iff {x : Except ε α} {f : α → β} {b : β}
    : x.map f = .ok b ↔ ∃ a, x = .ok a ∧ f a = b := by
  cases x <;> simp [Except.map]

theorem mapError_eq_ok_iff {δ : Type} {x : Except ε α} {f : ε → δ} {a : α}
    : x.mapError f = .ok a ↔ x = .ok a := by
  cases x <;> simp [Except.mapError]

theorem toOption_eq_some_iff {x : Except ε α} {a : α}
    : x.toOption = some a ↔ x = .ok a := by
  cases x <;> simp [Except.toOption]

/-- The results of a step for each item are those of the items, one for one, by induction. -/
theorem mapM_eq_ok_iff {f : α → Except ε β} {items : List α} {results : List β}
    : items.mapM f = .ok results ↔ List.Forall₂ (fun a b => f a = .ok b) items results := by
  induction items generalizing results with
  | nil => cases results <;> simp [pure, Except.pure]
  | cons a rest ih =>
      rw [List.mapM_cons, bind_eq_ok_iff]
      constructor
      · rintro ⟨b, first, more⟩
        obtain ⟨others, made, same⟩ := bind_eq_ok_iff.mp more
        obtain rfl := Except.ok.inj same
        exact .cons first (ih.mp made)
      · rintro (_ | ⟨first, others⟩)
        exact ⟨_, first, bind_eq_ok_iff.mpr ⟨_, ih.mpr others, rfl⟩⟩

/-- Steps of which each ends well with a result of some kind give a list of such results, by
induction. -/
theorem exists_mapM_eq_ok {f : α → Except ε β} {kind : α → β → Prop} {items : List α}
    (h : ∀ a ∈ items, ∃ b, f a = .ok b ∧ kind a b)
    : ∃ results, items.mapM f = .ok results ∧ List.Forall₂ kind items results := by
  induction items with
  | nil => exact ⟨[], rfl, .nil⟩
  | cons a rest ih =>
      obtain ⟨first, others⟩ := List.forall_mem_cons.mp h
      obtain ⟨b, made, here⟩ := first
      obtain ⟨results, more, there⟩ := ih others
      refine ⟨b :: results, ?_, .cons here there⟩
      rw [List.mapM_cons, made, more]
      rfl

/-- What follows for a result from its item holds of all results, by induction. -/
theorem forall_of_forall₂ {kind : α → β → Prop} {P : β → Prop} {items : List α} {results : List β}
    (h : List.Forall₂ kind items results) (each : ∀ a b, kind a b → P b)
    : ∀ b ∈ results, P b := by
  induction h with
  | nil => exact nofun
  | cons here _ ih => exact List.forall_mem_cons.mpr ⟨each _ _ here, ih⟩

/-- Steps that are the same for each item are the same for a list, by induction. -/
theorem mapM_congr {f g : α → Except ε β} {items : List α} (h : ∀ a ∈ items, f a = g a)
    : items.mapM f = items.mapM g := by
  induction items with
  | nil => rfl
  | cons a rest ih =>
      obtain ⟨first, others⟩ := List.forall_mem_cons.mp h
      rw [List.mapM_cons, List.mapM_cons, first, ih others]

end RideQuestions
