import RideQuestions.Proofs.Text.Places

/-! Looking for one of some words. A search from place to place, which tries the words one after
another wherever a boundary is and wants another boundary behind the word, finds something exactly
when one of them is a word of the text: within a longer word it finds none, whatever its ends are.
-/

namespace RideQuestions.Text

/-- Whether a word begins or ends between two parts of a text. -/
def boundary (before behind : List Char) : Bool :=
  wordBehind before != wordAhead behind

/-- The first of some words that stands at a place of a text between two boundaries. -/
def standing? (ws : List String) (before t : List Char) : Option String :=
  if boundary before t then
    ws.find? fun w =>
      w.toList.isPrefixOf t && boundary (before ++ w.toList) (t.drop w.toList.length)
  else none

/-- Looks for one of some words at every place of a text from the left, behind what was passed. -/
def search? (ws : List String) (before : List Char) : List Char → Option String
  | [] => standing? ws before []
  | c :: t => (standing? ws before (c :: t)).or (search? ws (before ++ [c]) t)

variable {ws : List String} {w : String} {before t : List Char}

-----------------------------------------------------------------------------------------
-- One place
-----------------------------------------------------------------------------------------

/-- The boundaries around a word are where the text goes on inside no word. -/
theorem boundary_iff_of_isWordText {run behind : List Char} (word : IsWordText run)
    : boundary before (run ++ behind) = true ∧ boundary (before ++ run) behind = true
      ↔ wordBehind before = false ∧ wordAhead behind = false := by
  obtain ⟨first, last⟩ := word.framed
  rw [boundary, boundary, wordAhead_append first, wordBehind_append last]
  simp

/-- A word stands at a place where one is found, as a maximal run. -/
theorem MaximalRun.of_standing? (proper : ∀ w ∈ ws, IsWordText w.toList)
    (found : standing? ws before t = some w)
    : w ∈ ws ∧ ∃ behind, MaximalRun (before ++ t) before w.toList behind := by
  rw [standing?, Option.ite_none_right_eq_some] at found
  obtain ⟨opens, found⟩ := found
  have member := List.mem_of_find?_eq_some found
  have fits := List.find?_some found
  rw [Bool.and_eq_true, List.isPrefixOf_iff_prefix] at fits
  obtain ⟨⟨behind, rfl⟩, closes⟩ := fits
  rw [List.drop_left] at closes
  have apart := (boundary_iff_of_isWordText (proper w member)).mp ⟨opens, closes⟩
  exact ⟨member, behind, (List.append_assoc _ _ _).symm, proper w member, apart.1, apart.2⟩

/-- Something is found at a place where one of the words is a maximal run: that word, if none that
is tried before it. -/
theorem MaximalRun.isSome_standing? {behind : List Char}
    (run : MaximalRun (before ++ t) before w.toList behind) (member : w ∈ ws)
    : (standing? ws before t).isSome = true := by
  have whole : t = w.toList ++ behind := by
    have whole := run.whole
    rw [List.append_assoc] at whole
    exact List.append_cancel_left whole
  obtain ⟨opens, closes⟩ := (boundary_iff_of_isWordText run.word).mpr ⟨run.opens, run.closes⟩
  rw [standing?, whole, if_pos opens, List.find?_isSome]
  refine ⟨w, member, ?_⟩
  rw [List.drop_left, closes, Bool.and_true, List.isPrefixOf_iff_prefix]
  exact List.prefix_append _ _

-----------------------------------------------------------------------------------------
-- All places
-----------------------------------------------------------------------------------------

/-- A search finds something when something is found at one of the places to come, by induction on
what is left of the text. -/
theorem isSome_search?_iff
    : (search? ws before t).isSome = true
      ↔ ∃ passed rest, t = passed ++ rest
        ∧ (standing? ws (before ++ passed) rest).isSome = true := by
  induction t generalizing before with
  | nil =>
      rw [search?]
      constructor
      · exact fun found => ⟨[], [], rfl, by rwa [List.append_nil]⟩
      · rintro ⟨passed, rest, whole, found⟩
        obtain ⟨rfl, rfl⟩ := List.append_eq_nil_iff.mp whole.symm
        rwa [List.append_nil] at found
  | cons c t ih =>
      rw [search?, Option.isSome_or, Bool.or_eq_true, ih]
      constructor
      · rintro (here | ⟨passed, rest, rfl, found⟩)
        · exact ⟨[], c :: t, rfl, by rwa [List.append_nil]⟩
        · exact ⟨c :: passed, rest, rfl, by rwa [List.append_assoc] at found⟩
      · rintro ⟨passed, rest, whole, found⟩
        rcases List.cons_eq_append_iff.mp whole with ⟨rfl, rfl⟩ | ⟨passed, rfl, rfl⟩
        · exact .inl (by rwa [List.append_nil] at found)
        · exact .inr ⟨passed, rest, rfl, by rwa [List.append_assoc]⟩

/-- One of some words is found in a text exactly when it is a word of the text. -/
theorem isSome_search?_iff_mem_words {s : List Char} (proper : ∀ w ∈ ws, IsWordText w.toList)
    : (search? ws [] s).isSome = true ↔ ∃ w ∈ ws, w.toList ∈ words s := by
  rw [isSome_search?_iff]
  constructor
  · rintro ⟨before, t, rfl, found⟩
    obtain ⟨w, found⟩ := Option.isSome_iff_exists.mp found
    obtain ⟨member, behind, run⟩ := MaximalRun.of_standing? proper found
    exact ⟨w, member, mem_words_iff.mpr ⟨before, behind, run⟩⟩
  · rintro ⟨w, member, stands⟩
    obtain ⟨before, behind, run⟩ := mem_words_iff.mp stands
    have whole : s = before ++ (w.toList ++ behind) := by rw [run.whole, List.append_assoc]
    rw [whole] at run
    exact ⟨before, w.toList ++ behind, whole, run.isSome_standing? member⟩

end RideQuestions.Text
