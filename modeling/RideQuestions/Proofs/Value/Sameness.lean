import RideQuestions.Value

/-! Values that are the same in every part are equal, so that what is said of equal labels holds of
labels of any kind.
-/

namespace RideQuestions.Value

mutual

theorem same_iff : ∀ a b : Value, same a b = true ↔ a = b
  | .null, b => by cases b <;> simp [same]
  | .bool value, b => by cases b <;> simp [same]
  | .int value, b => by cases b <;> simp [same]
  | .float value, b => by cases b <;> simp [same]
  | .decimal value, b => by cases b <;> simp [same]
  | .text value, b => by cases b <;> simp [same]
  | .list items, b => by
      cases b with
      | list others => simpa [same] using sameItems_iff items others
      | _ => simp [same]
  | .map entries, b => by
      cases b with
      | map others => simpa [same] using sameEntries_iff entries others
      | _ => simp [same]

theorem sameItems_iff : ∀ a b : List Value, sameItems a b = true ↔ a = b
  | [], b => by cases b <;> simp [sameItems]
  | item :: rest, b => by
      cases b with
      | nil => simp [sameItems]
      | cons other others => simp [sameItems, same_iff item other, sameItems_iff rest others]

theorem sameEntries_iff : ∀ a b : List (String × Value), sameEntries a b = true ↔ a = b
  | [], b => by cases b <;> simp [sameEntries]
  | (key, value) :: rest, b => by
      cases b with
      | nil => simp [sameEntries]
      | cons other others =>
          obtain ⟨otherKey, otherValue⟩ := other
          simp [sameEntries, same_iff value otherValue, sameEntries_iff rest others]

end

instance : LawfulBEq Value where
  eq_of_beq same := (same_iff _ _).mp same
  rfl := (same_iff _ _).mpr rfl

instance : DecidableEq Value :=
  instDecidableEqOfLawfulBEq

end RideQuestions.Value
