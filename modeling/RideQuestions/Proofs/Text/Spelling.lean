import RideQuestions.Proofs.Text.Words

/-! Words with nothing but blanks between them. They are the first words of a text exactly when they
stand in its front, so that a phrase of words can be looked for by its characters.
-/

namespace RideQuestions.Text

-----------------------------------------------------------------------------------------
-- Words with blanks between them
-----------------------------------------------------------------------------------------

/-- One blank or more. -/
structure Blanks (s : List Char) : Prop where
  filled : s ≠ []
  whole : ∀ c ∈ s, isBlank c = true

/-- Some words stand in a text one behind the other, with blanks between them and nothing else. -/
inductive Spelled : List String → List Char → Prop where
  | last {w : String} : Spelled [w] w.toList
  | more {w : String} {b said : List Char} {rest : List String} (between : Blanks b)
      (behind : Spelled rest said) : Spelled (w :: rest) (w.toList ++ b ++ said)

theorem spelled_singleton_iff {w : String} {said : List Char}
    : Spelled [w] said ↔ said = w.toList := by
  constructor
  · rintro (_ | ⟨_, behind⟩)
    · rfl
    · cases behind
  · rintro rfl
    exact .last

theorem spelled_cons_iff {w v : String} {ws : List String} {said : List Char}
    : Spelled (w :: v :: ws) said
      ↔ ∃ b rest, Blanks b ∧ Spelled (v :: ws) rest ∧ said = w.toList ++ b ++ rest := by
  constructor
  · rintro (_ | ⟨between, behind⟩)
    exact ⟨_, _, between, behind, rfl⟩
  · rintro ⟨b, rest, between, behind, rfl⟩
    exact .more between behind

theorem wordAhead_append_of_blanks {b : List Char} (blanks : Blanks b) (s : List Char)
    : wordAhead (b ++ s) = false := by
  obtain ⟨c, b, rfl⟩ := List.exists_cons_of_ne_nil blanks.filled
  exact isWord_of_isBlank (blanks.whole c List.mem_cons_self)

/-- Blanks at the front of a text do not matter, by induction. -/
theorem opening_append_of_blanks {b : List Char} (whole : ∀ c ∈ b, isBlank c = true) (s : List Char)
    : opening (b ++ s) = opening s := by
  induction b with
  | nil => rfl
  | cons c b ih =>
      obtain ⟨blank, whole⟩ := List.forall_mem_cons.mp whole
      rw [List.cons_append, opening_cons_of_isBlank blank, ih whole]

/-- Words that stand in the front of a text are its first ones, by induction on them. -/
theorem Spelled.opening_append {ws : List String} {said : List Char} (h : Spelled ws said)
    (proper : ∀ w ∈ ws, IsWordText w.toList) {behind : List Char} (stops : wordAhead behind = false)
    : opening (said ++ behind) = ws ++ opening behind := by
  induction h with
  | @last w =>
      rw [Text.opening_append (proper w List.mem_cons_self) stops, String.ofList_toList]
      rfl
  | @more w b said rest between _ ih =>
      obtain ⟨word, proper⟩ := List.forall_mem_cons.mp proper
      rw [List.append_assoc, List.append_assoc,
        Text.opening_append word (wordAhead_append_of_blanks between _),
        opening_append_of_blanks between.whole, ih proper, String.ofList_toList]
      rfl

/-- Where a text opens with a word behind its front, nothing but blanks is before it, by
induction. -/
theorem exists_blanks_of_opening {s : List Char} (apart : wordAhead s = false)
    (words : opening s ≠ [])
    : ∃ b t, s = b ++ t ∧ Blanks b ∧ wordAhead t = true ∧ opening t = opening s := by
  induction s with
  | nil => exact absurd rfl words
  | cons c s ih =>
      have other : isWord c = false := apart
      have blank : isBlank c = true := by
        by_contra solid
        refine words (opening_cons_of_endsPhrase ?_ s)
        rw [endsPhrase, other, eq_false_of_ne_true solid]
        rfl
      rw [opening_cons_of_isBlank blank] at words ⊢
      cases ahead : wordAhead s with
      | true => exact ⟨[c], s, rfl, ⟨by simp, by simpa using blank⟩, ahead, rfl⟩
      | false =>
          obtain ⟨b, t, rfl, blanks, begins, same⟩ := ih ahead words
          exact ⟨c :: b, t, rfl, ⟨by simp, List.forall_mem_cons.mpr ⟨blank, blanks.whole⟩⟩, begins,
            same⟩

/-- The first words of a text that begins with one stand in its front, by induction on them. -/
theorem exists_spelled_of_opening {ws rest : List String} (filled : ws ≠ []) {t : List Char}
    (ahead : wordAhead t = true) (opens : opening t = ws ++ rest)
    : ∃ said behind, t = said ++ behind ∧ Spelled ws said ∧ wordAhead behind = false
        ∧ opening behind = rest := by
  induction ws generalizing t with
  | nil => exact absurd rfl filled
  | cons v ws ih =>
      obtain ⟨w, behind, rfl, word, stops⟩ := exists_word_of_wordAhead ahead
      rw [Text.opening_append word stops, List.cons_append] at opens
      obtain ⟨rfl, others⟩ := List.cons.inj opens
      have spelled : (String.ofList w).toList = w := String.toList_ofList
      cases ws with
      | nil => exact ⟨w, behind, rfl, by simpa [spelled] using Spelled.last (w := String.ofList w),
          stops, others⟩
      | cons v' ws =>
          have wordy : opening behind ≠ [] := by simp [others]
          obtain ⟨b, t, rfl, between, begins, same⟩ := exists_blanks_of_opening stops wordy
          obtain ⟨said, behind, rfl, more, stops', rest⟩ :=
            ih (List.cons_ne_nil _ _) begins (same.trans others)
          refine ⟨w ++ b ++ said, behind, by simp, ?_, stops', rest⟩
          simpa [spelled] using Spelled.more (w := String.ofList w) between more

/-- The first words of a text that begins with one are those that stand in its front. -/
theorem opening_eq_append_iff {ws rest : List String} (filled : ws ≠ [])
    (proper : ∀ w ∈ ws, IsWordText w.toList) {t : List Char} (ahead : wordAhead t = true)
    : opening t = ws ++ rest
      ↔ ∃ said behind, t = said ++ behind ∧ Spelled ws said ∧ wordAhead behind = false
          ∧ opening behind = rest := by
  constructor
  · exact exists_spelled_of_opening filled ahead
  · rintro ⟨said, behind, rfl, spelled, stops, rfl⟩
    exact spelled.opening_append proper stops

theorem wordAhead_append {said : List Char} (ahead : wordAhead said = true) (behind : List Char)
    : wordAhead (said ++ behind) = true := by
  cases said with
  | nil => exact absurd ahead (by simp [wordAhead])
  | cons c said => exact ahead

theorem wordBehind_append {said : List Char} (last : wordBehind said = true) (before : List Char)
    : wordBehind (before ++ said) = true := by
  unfold wordBehind at last ⊢
  rw [List.getLast?_append]
  cases stands : said.getLast? with
  | none =>
      rw [stands] at last
      exact absurd last (by simp)
  | some c =>
      rw [stands] at last
      exact last

theorem IsWordText.framed {w : List Char} (word : IsWordText w)
    : wordAhead w = true ∧ wordBehind w = true := by
  have first := word.whole _ (List.head_mem word.filled)
  have last := word.whole _ (List.getLast_mem word.filled)
  unfold wordAhead wordBehind
  rw [List.head?_eq_some_head word.filled, List.getLast?_eq_some_getLast word.filled]
  exact ⟨first, last⟩

/-- What some words spell begins and ends inside a word, by induction on them. -/
theorem Spelled.framed {ws : List String} {said : List Char} (h : Spelled ws said)
    (proper : ∀ w ∈ ws, IsWordText w.toList)
    : wordAhead said = true ∧ wordBehind said = true := by
  induction h with
  | last => exact (proper _ List.mem_cons_self).framed
  | more _ _ ih =>
      obtain ⟨word, proper⟩ := List.forall_mem_cons.mp proper
      rw [List.append_assoc]
      exact ⟨wordAhead_append word.framed.1 _,
        wordBehind_append (wordBehind_append (ih proper).2 _) _⟩

end RideQuestions.Text
