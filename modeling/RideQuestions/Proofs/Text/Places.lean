import RideQuestions.Proofs.Text.Spelling

/-! The words of a text by their places. They are its maximal runs of word characters from left to
right, and they are what is left between blanks when all other characters become blanks as well.
-/

namespace RideQuestions.Text

-----------------------------------------------------------------------------------------
-- Cutting a text
-----------------------------------------------------------------------------------------

theorem words_nil
    : words [] = [] :=
  rfl

/-- The words of a text lie on either side of a character that is no part of a word. -/
theorem words_append_cons {c : Char} (other : isWord c = false) (s t : List Char)
    : words (s ++ c :: t) = words s ++ words t := by
  rw [words, runs, List.splitOnP_append_cons s t (by simp [other]), List.filter_append]
  rfl

/-- The words of a text that is cut behind a word are those of its parts. -/
theorem words_append_of_wordBehind {s : List Char} (apart : wordBehind s = false) (t : List Char)
    : words (s ++ t) = words s ++ words t := by
  rcases List.eq_nil_or_concat s with rfl | ⟨front, c, rfl⟩
  · rfl
  · rw [List.concat_eq_append] at apart ⊢
    have other : isWord c = false := by simpa [wordBehind] using apart
    rw [List.append_assoc, List.singleton_append, words_append_cons other,
      words_append_cons other, words_nil, List.append_nil]

theorem wordBehind_append_of_filled {s : List Char} (filled : s ≠ []) (before : List Char)
    : wordBehind (before ++ s) = wordBehind s := by
  rw [wordBehind, wordBehind, List.getLast?_append, List.getLast?_eq_some_getLast filled]
  rfl

theorem wordAhead_append_of_filled {s : List Char} (filled : s ≠ []) (behind : List Char)
    : wordAhead (s ++ behind) = wordAhead s := by
  obtain ⟨c, rest, rfl⟩ := List.exists_cons_of_ne_nil filled
  rfl

-----------------------------------------------------------------------------------------
-- Maximal runs
-----------------------------------------------------------------------------------------

/-- A run of word characters in a text that goes on at neither end. -/
structure MaximalRun (s before run behind : List Char) : Prop where
  whole : s = before ++ run ++ behind
  word : IsWordText run
  opens : wordBehind before = false
  closes : wordAhead behind = false

variable {s before run behind before' run' behind' : List Char}

/-- A maximal run is a word, between the words before it and those behind it. -/
theorem MaximalRun.words_eq (h : MaximalRun s before run behind)
    : words s = words before ++ run :: words behind := by
  rw [h.whole, List.append_assoc, words_append_of_wordBehind h.opens,
    words_append h.word h.closes]

/-- A character that is no part of a word changes nothing behind it. -/
theorem MaximalRun.cons (h : MaximalRun s before run behind) {c : Char} (other : isWord c = false)
    : MaximalRun (c :: s) (c :: before) run behind := by
  refine ⟨by rw [h.whole]; rfl, h.word, ?_, h.closes⟩
  rcases before with _ | ⟨d, before⟩
  · simpa [wordBehind] using other
  · exact (wordBehind_append_of_filled (List.cons_ne_nil d before) [c]).trans h.opens

/-- A word before a text changes nothing in it, where the text does not begin inside a word. -/
theorem MaximalRun.append (h : MaximalRun s before run behind) {w : List Char}
    (word : IsWordText w) (stops : wordAhead s = false)
    : MaximalRun (w ++ s) (w ++ before) run behind ∧ words (w ++ before) = w :: words before := by
  rw [h.whole, List.append_assoc] at stops
  have filled : before ≠ [] := by
    rintro rfl
    rw [List.nil_append, wordAhead_append_of_filled h.word.filled, h.word.framed.1] at stops
    exact absurd stops (by simp)
  rw [wordAhead_append_of_filled filled] at stops
  refine ⟨⟨by rw [h.whole]; simp, h.word, ?_, h.closes⟩, words_append word stops⟩
  exact (wordBehind_append_of_filled filled w).trans h.opens

/-- Every word is a maximal run behind the words before it, by induction along the words of the
text. -/
theorem exists_maximalRun {us vs : List (List Char)} (split : words s = us ++ run :: vs)
    : ∃ before behind, MaximalRun s before run behind ∧ words before = us := by
  induction s using induction_on_words generalizing us with
  | nil =>
      rw [words_nil] at split
      exact absurd split.symm (by simp)
  | mark c s ends ih =>
      have other := isWord_of_endsPhrase ends
      rw [words_cons_of_not_isWord other] at split
      obtain ⟨before, behind, h, same⟩ := ih split
      exact ⟨c :: before, behind, h.cons other, (words_cons_of_not_isWord other before).trans same⟩
  | blank c s blank ih =>
      have other := isWord_of_isBlank blank
      rw [words_cons_of_not_isWord other] at split
      obtain ⟨before, behind, h, same⟩ := ih split
      exact ⟨c :: before, behind, h.cons other, (words_cons_of_not_isWord other before).trans same⟩
  | word w s word stops ih =>
      rw [words_append word stops] at split
      rcases List.cons_eq_append_iff.mp split with ⟨rfl, same⟩ | ⟨us, rfl, later⟩
      · obtain ⟨rfl, _⟩ := List.cons.inj same
        exact ⟨[], s, ⟨rfl, word, rfl, stops⟩, rfl⟩
      · obtain ⟨before, behind, h, same⟩ := ih later
        obtain ⟨appended, more⟩ := h.append word stops
        exact ⟨w ++ before, behind, appended, by rw [more, same]⟩

/-- The words of a text are its maximal runs. -/
theorem mem_words_iff
    : run ∈ words s ↔ ∃ before behind, MaximalRun s before run behind := by
  constructor
  · intro member
    obtain ⟨us, vs, split⟩ := List.append_of_mem member
    obtain ⟨before, behind, h, _⟩ := exists_maximalRun split
    exact ⟨before, behind, h⟩
  · rintro ⟨before, behind, h⟩
    rw [h.words_eq]
    exact List.mem_append_cons_self

/-- A maximal run stands left of all places of a word that it has none of before it. -/
theorem MaximalRun.length_lt (h : MaximalRun s before run behind)
    (other : MaximalRun s before' run' behind') (fresh : run' ∉ words before) (differ : run ≠ run')
    : before.length < before'.length := by
  by_contra further
  have front : before <+: s := ⟨run ++ behind, by rw [h.whole, List.append_assoc]⟩
  have front' : before' <+: s := ⟨run' ++ behind', by rw [other.whole, List.append_assoc]⟩
  obtain ⟨between, rfl⟩ :=
    List.prefix_of_prefix_length_le front' front (Nat.le_of_not_lt further)
  -- The other run begins in the text between its place and that of this one, or at the same place.
  have rest : between ++ run ++ behind = run' ++ behind' := by
    have whole := h.whole.symm.trans other.whole
    rw [List.append_assoc, List.append_assoc, List.append_assoc] at whole
    rw [List.append_assoc]
    exact List.append_cancel_left whole
  have apart : wordBehind between = false := by
    by_cases empty : between = []
    · rw [empty]
      rfl
    · exact (wordBehind_append_of_filled empty before').symm.trans h.opens
  have named := congrArg words rest
  rw [List.append_assoc, words_append_of_wordBehind apart, words_append h.word h.closes,
    words_append other.word other.closes] at named
  rw [words_append_of_wordBehind other.opens] at fresh
  cases inside : words between with
  | nil =>
      rw [inside] at named
      exact differ (List.cons.inj named).1
  | cons w more =>
      rw [inside] at named fresh
      obtain ⟨rfl, _⟩ := List.cons.inj named
      exact fresh (List.mem_append_right _ List.mem_cons_self)

-----------------------------------------------------------------------------------------
-- Blanks for marks
-----------------------------------------------------------------------------------------

/-- A text with a blank in the place of every character that is neither part of a word nor blank. -/
def blanked (s : List Char) : List Char :=
  s.map fun c => if endsPhrase c then ' ' else c

/-- The words of a text are what blanks divide when there is nothing else between them, by induction
along the words. -/
theorem runs_blanked (s : List Char)
    : runs (fun c => !isBlank c) (blanked s) = words s := by
  induction s using induction_on_words with
  | nil => rfl
  | mark c s ends ih =>
      have other := isWord_of_endsPhrase ends
      rw [words_cons_of_not_isWord other, blanked, List.map_cons, if_pos ends]
      exact (runs_cons_of_not (by decide) _).trans ih
  | blank c s blank ih =>
      rw [words_cons_of_not_isWord (isWord_of_isBlank blank), blanked, List.map_cons,
        if_neg (by simp [endsPhrase_of_isBlank blank])]
      exact (runs_cons_of_not (by simp [blank]) _).trans ih
  | word w s word stops ih =>
      have kept : blanked (w ++ s) = w ++ blanked s := by
        have same : ∀ c ∈ w, (if endsPhrase c then ' ' else c) = c := fun c member =>
          if_neg (by simp [endsPhrase_of_isWord (word.whole c member)])
        rw [blanked, List.map_append, List.map_congr_left same, List.map_id', blanked]
      have behind : ∀ c ∈ (blanked s).head?, (!isBlank c) = false := by
        cases s with
        | nil => exact fun c member => absurd member (by simp [blanked])
        | cons d s =>
            intro c member
            have other : isWord d = false := stops
            obtain rfl : (if endsPhrase d then ' ' else d) = c := by simpa [blanked] using member
            split
            · decide
            · next kept => simpa [endsPhrase, other] using kept
      rw [kept, words_append word stops, runs_append word.filled _ behind, ih]
      exact fun c member => by simp [isBlank_of_isWord (word.whole c member)]

end RideQuestions.Text
