import RideQuestions.Value

/-! Values that can be written, and what keeps the others from it.
-/

namespace RideQuestions.Value

/-- A value can be written when there is room for it and its whole numbers can be written. -/
structure Writable (room : Nat) (value : Value) : Prop where
  fits : value.depth ≤ room
  writable : value.isWritable = true

variable {room : Nat} {value : Value}

theorem flaw?_of_writable (writable : value.Writable room)
    : value.flaw? room = none := by
  rw [flaw?, if_neg (Nat.not_lt.mpr writable.fits), if_pos writable.writable]

/-- What cannot be written lies too deep, or else a number in it is too long. -/
theorem flaw?_of_not_writable (unwritable : ¬ value.Writable room)
    : value.flaw? room = some (if room < value.depth then .tooNested else .unwritable) := by
  rw [flaw?]
  split
  · rfl
  · next fits =>
      rw [if_neg fun writable => unwritable ⟨Nat.not_lt.mp fits, writable⟩]

theorem flaw?_eq_none_iff : value.flaw? room = none ↔ value.Writable room := by
  refine ⟨fun sound => Classical.byContradiction fun unwritable => ?_, flaw?_of_writable⟩
  rw [flaw?_of_not_writable unwritable] at sound
  exact absurd sound (by simp)

/-- A value gets the text made of it exactly when it can be written. -/
theorem written_eq_ok_iff {text : Value → String} {s : String}
    : value.written text room = .ok s ↔ value.Writable room ∧ text value = s := by
  rw [written, ← flaw?_eq_none_iff]
  cases value.flaw? room with
  | none => simp
  | some flaw => simp

end RideQuestions.Value
