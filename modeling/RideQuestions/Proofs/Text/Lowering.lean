import RideQuestions.Text.Case

/-! Texts in lower case. Lower-casing leaves nothing behind that it would change again, whatever
stands around it, so that a text put together from lower-case characters is its own lower-case form.
-/

namespace RideQuestions.Text

/-- A character that lower-casing leaves as it is, whatever stands around it. -/
structure IsSmall (c : Char) : Prop where
  fixed : smallLetter c = c
  /-- The dotted capital I is not in the table of single letters. -/
  undotted : c.toNat ≠ 0x130

instance (c : Char) : Decidable (IsSmall c) :=
  decidable_of_iff (smallLetter c = c ∧ c.toNat ≠ 0x130)
    ⟨fun h => ⟨h.1, h.2⟩, fun h => ⟨h.fixed, h.undotted⟩⟩

-----------------------------------------------------------------------------------------
-- Capitals
-----------------------------------------------------------------------------------------

namespace CaseRun

/-- A code point is one of the capitals of a run. -/
structure Holds (run : CaseRun) (code : Nat) : Prop where
  above : run.first ≤ code
  below : code ≤ run.last
  onStep : (code - run.first) % run.step = 0

/-- The first and the last small letter of a run. -/
def image (run : CaseRun) : Nat × Nat :=
  ((run.first + run.shift).toNat, (run.last + run.shift).toNat)

/-- The small letters of a run are characters, and the dotted capital I is none of them. -/
structure Proper (run : CaseRun) : Prop where
  positive : 0 ≤ run.first + run.shift
  valid : run.image.2 < 0xd800 ∨ 0xdfff < run.image.1 ∧ run.image.2 < 0x110000
  undotted : run.image.2 < 0x130 ∨ 0x130 < run.image.1

instance (run : CaseRun) : Decidable run.Proper :=
  decidable_of_iff (_ ∧ _ ∧ _) ⟨fun h => ⟨h.1, h.2.1, h.2.2⟩, fun h => ⟨h.1, h.2, h.3⟩⟩

end CaseRun

/-- A code point is left as it is, unless it is a capital of some run and moved as that run says, by
induction. -/
theorem smallCode_eq (runs : List CaseRun) (code : Nat)
    : smallCode runs code = code
      ∨ ∃ run ∈ runs, run.Holds code ∧ smallCode runs code = (code + run.shift).toNat := by
  induction runs with
  | nil => exact .inl rfl
  | cons run rest ih =>
      rw [smallCode]
      split
      · exact .inl rfl
      · next above =>
          split
          · next below =>
              split
              · next onStep =>
                  exact .inr ⟨run, List.mem_cons_self, ⟨Nat.le_of_not_lt above, below, onStep⟩, rfl⟩
              · exact .inl rfl
          · refine ih.imp_right fun ⟨other, member, moved⟩ => ?_
            exact ⟨other, List.mem_cons_of_mem run member, moved⟩

/-- No capital of some runs is met from one code point up to another, by whole steps. Where a run
lies across them, every second code point belongs to it and those between to the steps. -/
def passes (step first last : Nat) : List CaseRun → Bool
  | [] => true
  | run :: rest =>
      last < run.first
        || (run.last < first
            || run.step = 2 && (step = 2 || first = last) && (first + run.first) % 2 = 1)
          && passes step first last rest

/-- What passes the capitals is left as it is, by induction. -/
theorem smallCode_of_passes {step first last : Nat} {runs : List CaseRun}
    (free : passes step first last runs = true) {code : Nat} (above : first ≤ code)
    (below : code ≤ last) (onStep : (code - first) % step = 0)
    : smallCode runs code = code := by
  induction runs with
  | nil => rfl
  | cons run rest ih =>
      simp only [passes, Bool.or_eq_true, Bool.and_eq_true, decide_eq_true_eq] at free
      rw [smallCode]
      split
      · rfl
      · next reached =>
          obtain ⟨apart, free⟩ := free.resolve_left (by omega)
          split
          · next inside =>
              obtain ⟨⟨two, single⟩, odd⟩ := apart.resolve_left (by omega)
              refine if_neg ?_
              rw [two]
              rcases single with rfl | rfl <;> omega
          · exact ih free

theorem passes_of_mem_caseRuns
    : ∀ run ∈ caseRuns,
        run.Proper ∧ passes run.step run.image.1 run.image.2 caseRuns = true := by
  decide +kernel

-----------------------------------------------------------------------------------------
-- Small letters
-----------------------------------------------------------------------------------------

/-- Small letters are small: they are characters, and they pass the capitals of all runs. -/
theorem isSmall_smallLetter {c : Char} (undotted : c.toNat ≠ 0x130)
    : IsSmall (smallLetter c) := by
  rcases smallCode_eq caseRuns c.toNat with same | ⟨run, member, capital, moved⟩
  · have kept : smallLetter c = c := by rw [smallLetter, same, Char.ofNat_toNat]
    rw [kept]
    exact ⟨kept, undotted⟩
  · obtain ⟨proper, free⟩ := passes_of_mem_caseRuns run member
    have := capital.above
    have := capital.below
    have := proper.positive
    have valid := proper.valid
    have other := proper.undotted
    dsimp only [CaseRun.image] at valid other free
    have code : (smallLetter c).toNat = (c.toNat + run.shift).toNat := by
      rw [smallLetter, moved, Char.ofNat, dif_pos (by rw [Nat.isValidChar]; omega)]
      rfl
    refine ⟨?_, by rw [code]; omega⟩
    have onStep := capital.onStep
    rw [smallLetter, smallCode_of_passes free (by omega) (by omega), Char.ofNat_toNat]
    rwa [code, show (c.toNat + run.shift).toNat - (run.first + run.shift).toNat
      = c.toNat - run.first by omega]

/-- Every character of a lower-case form is small, by induction. -/
theorem isSmall_of_mem_lowerChars {casedBefore : Bool} {s : List Char} {c : Char}
    (member : c ∈ lowerChars casedBefore s)
    : IsSmall c := by
  induction s generalizing casedBefore with
  | nil => exact absurd member List.not_mem_nil
  | cons first rest ih =>
      rw [lowerChars] at member
      rcases List.mem_append.mp member with here | later
      · split at here
        · next sigma =>
            have small : IsSmall (smallLetter first) := isSmall_smallLetter (by rw [sigma]; decide)
            obtain rfl := List.mem_singleton.mp here
            split
            · decide +kernel
            · exact small
        · split at here
          · rcases List.mem_cons.mp here with rfl | here
            · decide +kernel
            · obtain rfl := List.mem_singleton.mp here
              decide +kernel
          · next plain =>
              obtain rfl := List.mem_singleton.mp here
              refine isSmall_smallLetter fun dotted => plain ?_
              rw [← Char.ofNat_toNat first, dotted]
              rfl
      · exact ih later

/-- A text of small characters is its own lower-case form, by induction. -/
theorem lowerChars_eq_self {s : List Char} (small : ∀ c ∈ s, IsSmall c) (casedBefore : Bool)
    : lowerChars casedBefore s = s := by
  induction s generalizing casedBefore with
  | nil => rfl
  | cons c rest ih =>
      obtain ⟨first, others⟩ := List.forall_mem_cons.mp small
      rw [lowerChars, ih others, if_neg, if_neg, first.fixed]
      · rfl
      · rintro rfl
        exact absurd first (by decide +kernel)
      · rintro rfl
        exact absurd first (by decide +kernel)

theorem lower_eq_self {text : String} (small : ∀ c ∈ text.toList, IsSmall c)
    : lower text = text := by
  rw [lower, lowerChars_eq_self small, String.ofList_toList]

theorem isSmall_of_mem_lower {text : String} {c : Char} (member : c ∈ (lower text).toList)
    : IsSmall c := by
  rw [lower, String.toList_ofList] at member
  exact isSmall_of_mem_lowerChars member

end RideQuestions.Text
