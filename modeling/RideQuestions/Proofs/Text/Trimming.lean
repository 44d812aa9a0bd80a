import RideQuestions.Text.Blank
import RideQuestions.Text.Case
import Mathlib.Data.List.TakeWhile

/-! Blanks and letter case. A blank has no other case, so that it still stands in the lower-case
form of a text, and a text that is written without blanks but for letter case needs no trimming.
-/

namespace RideQuestions.Text

theorem Ranges.exists_of_contains {ranges : Ranges} {code : Nat}
    (h : ranges.contains code = true)
    : ∃ range ∈ ranges, range.1 ≤ code ∧ code ≤ range.2 := by
  induction ranges with
  | nil => exact absurd h (by simp [contains])
  | cons range rest ih =>
      rw [contains] at h
      split at h
      · exact absurd h (by simp)
      · next above =>
          split at h
          · next below => exact ⟨range, List.mem_cons_self, Nat.le_of_not_lt above, below⟩
          · obtain ⟨found, member, inside⟩ := ih h
            exact ⟨found, List.mem_cons_of_mem _ member, inside⟩

/-- The code points of all blanks. -/
def blankCodes : List Nat :=
  blankRanges.flatMap fun (first, last) => List.range' first (last + 1 - first)

theorem mem_blankCodes {c : Char} (blank : isBlank c = true)
    : c.toNat ∈ blankCodes := by
  obtain ⟨range, member, inside⟩ := Ranges.exists_of_contains blank
  refine List.mem_flatMap.mpr ⟨range, member, List.mem_range'_1.mpr ⟨inside.1, ?_⟩⟩
  omega

/-- A blank is its own small letter. -/
theorem smallLetter_of_isBlank {c : Char} (blank : isBlank c = true)
    : smallLetter c = c := by
  have same : ∀ code ∈ blankCodes, smallCode caseRuns code = code := by decide +kernel
  rw [smallLetter, same _ (mem_blankCodes blank), Char.ofNat_toNat]

/-- A blank of a text stands in its lower-case form, by induction. -/
theorem mem_lowerChars_of_isBlank {c : Char} (blank : isBlank c = true) {s : List Char}
    (member : c ∈ s) (casedBefore : Bool)
    : c ∈ lowerChars casedBefore s := by
  induction s generalizing casedBefore with
  | nil => exact absurd member List.not_mem_nil
  | cons first rest ih =>
      rw [lowerChars]
      rcases List.mem_cons.mp member with rfl | member
      · refine List.mem_append_left _ ?_
        split
        · next sigma =>
            rw [sigma] at blank
            exact absurd blank (by decide +kernel)
        · split
          · next dotted =>
              rw [dotted] at blank
              exact absurd blank (by decide +kernel)
          · rw [smallLetter_of_isBlank blank]
            exact List.mem_singleton_self c
      · exact List.mem_append_right _ (ih member _)

/-- Nothing is cut off the beginning of a text that begins with no character of the class. -/
theorem dropWhile_of_head? {p : Char → Bool} {s : List Char} (h : ∀ c ∈ s.head?, p c = false)
    : s.dropWhile p = s := by
  cases s with
  | nil => rfl
  | cons c rest => exact List.dropWhile_cons_of_neg (by simp [h c rfl])

/-- A text that begins and ends with no blank is what is left of it without its blanks. -/
theorem trim_eq_self {text : String} (first : ∀ c ∈ text.toList.head?, isBlank c = false)
    (last : ∀ c ∈ text.toList.getLast?, isBlank c = false)
    : trim text = text := by
  rw [trim, trimWhile, dropWhile_of_head? first, dropEndWhile,
    dropWhile_of_head? (by simpa using last), List.reverse_reverse, String.ofList_toList]

/-- A text whose lower-case form has no blanks needs no trimming. -/
theorem trim_of_lower {text : String} (solid : ∀ c ∈ (lower text).toList, isBlank c = false)
    : trim text = text := by
  have solid : ∀ c ∈ text.toList, isBlank c = false := by
    intro c member
    rw [← Bool.not_eq_true]
    intro blank
    have stands : c ∈ (lower text).toList := by
      rw [lower, String.toList_ofList]
      exact mem_lowerChars_of_isBlank blank member false
    exact absurd (solid c stands) (by simp [blank])
  exact trim_eq_self (fun c member => solid c (List.mem_of_mem_head? member))
    (fun c member => solid c (List.mem_of_mem_getLast? member))

/-- What stands in front of a character that is kept is not cut off. -/
theorem dropEndWhile_append_cons {p : Char → Bool} {c : Char} (kept : p c = false) (s t : List Char)
    : dropEndWhile p (s ++ c :: t) = s ++ c :: dropEndWhile p t := by
  have stops : (c :: s.reverse).dropWhile p = c :: s.reverse :=
    List.dropWhile_cons_of_neg (by simp [kept])
  have turned : (s ++ c :: t).reverse = t.reverse ++ c :: s.reverse := by simp
  rw [dropEndWhile, dropEndWhile, turned, List.dropWhile_append]
  split
  · next empty =>
      rw [stops, List.isEmpty_iff.mp empty]
      simp
  · simp

/-- Of a text that begins with no blank, only what stands behind its last character but blanks is
cut off. -/
theorem toList_trim {text : String} {front rest : List Char} {c : Char}
    (first : ∀ d ∈ text.toList.head?, isBlank d = false) (split : text.toList = front ++ c :: rest)
    (kept : isBlank c = false)
    : (trim text).toList = front ++ c :: dropEndWhile isBlank rest := by
  rw [trim, trimWhile, dropWhile_of_head? first, split, dropEndWhile_append_cons kept,
    String.toList_ofList]

/-- Nothing is left of a text exactly when all of it is cut off. -/
theorem trimWhile_eq_nil_iff {p : Char → Bool} {s : List Char}
    : trimWhile p s = [] ↔ ∀ c ∈ s, p c = true := by
  rw [trimWhile, dropEndWhile, List.reverse_eq_nil_iff, List.dropWhile_eq_nil_iff]
  constructor
  · intro behind c member
    by_cases first : s.dropWhile p = []
    · exact List.dropWhile_eq_nil_iff.mp first c member
    · have kept := List.head_dropWhile_not p first
      have cut := behind _ (List.mem_reverse.mpr (List.head_mem first))
      exact absurd cut (by simp [kept])
  · intro all c member
    exact all c ((List.dropWhile_suffix p).subset (List.mem_reverse.mp member))

theorem trimSpace_eq_empty_iff {text : String}
    : trimSpace text = "" ↔ ∀ c ∈ text.toList, isSpace c = true := by
  rw [trimSpace, ← String.toList_inj, String.toList_ofList]
  exact trimWhile_eq_nil_iff

end RideQuestions.Text
