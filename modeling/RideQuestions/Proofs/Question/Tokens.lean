import RideQuestions.Proofs.Repeats
import RideQuestions.Proofs.Text.Lowering
import RideQuestions.Proofs.Text.Places
import RideQuestions.Question.Wording

/-! The tokens of a question. They are those of its words that say something, each once and by the
place where it stands first, and as a question of their own they have the same tokens again.
-/

namespace RideQuestions.Question

open RideQuestions.Text

-----------------------------------------------------------------------------------------
-- Words with a blank between them
-----------------------------------------------------------------------------------------

/-- Words with a blank between them are the words of what they make, by induction. -/
theorem words_intercalate {ws : List (List Char)} (proper : ∀ w ∈ ws, IsWordText w)
    : words ([' '].intercalate ws) = ws := by
  induction ws with
  | nil => rfl
  | cons w rest ih =>
      obtain ⟨word, others⟩ := List.forall_mem_cons.mp proper
      cases rest with
      | nil =>
          rw [List.intercalate_singleton]
          exact (congrArg words (List.append_nil w)).symm.trans (words_append word rfl)
      | cons v rest =>
          rw [List.intercalate_cons_cons, List.append_assoc, words_append word rfl,
            List.singleton_append, words_cons_of_not_isWord (by decide), ih others]

/-- What words with a blank between them make has no other characters, by induction. -/
theorem mem_intercalate {ws : List (List Char)} {c : Char} (member : c ∈ [' '].intercalate ws)
    : c = ' ' ∨ ∃ w ∈ ws, c ∈ w := by
  induction ws with
  | nil => exact absurd member (by simp [List.intercalate_nil])
  | cons w rest ih =>
      cases rest with
      | nil =>
          rw [List.intercalate_singleton] at member
          exact .inr ⟨w, List.mem_cons_self, member⟩
      | cons v rest =>
          rw [List.intercalate_cons_cons, List.append_assoc, List.mem_append, List.mem_append,
            List.mem_singleton] at member
          rcases member with here | blank | later
          · exact .inr ⟨w, List.mem_cons_self, here⟩
          · exact .inl blank
          · refine (ih later).imp_right fun ⟨w', found, member⟩ => ?_
            exact ⟨w', List.mem_cons_of_mem w found, member⟩

-----------------------------------------------------------------------------------------
-- Tokens
-----------------------------------------------------------------------------------------

variable {question token other : String}

theorem isToken_iff
    : isToken token = true ↔ minTokenLength ≤ token.length ∧ token ∉ stopWords := by
  simp [isToken]

theorem mem_wordsOf_iff
    : token ∈ wordsOf question ↔ token.toList ∈ words (lower question).toList := by
  rw [wordsOf, List.mem_map]
  constructor
  · rintro ⟨w, member, rfl⟩
    rwa [String.toList_ofList]
  · exact fun member => ⟨_, member, String.ofList_toList⟩

/-- A word stands left of all places of another one when it does so among the words. -/
theorem exists_maximalRun_of_standsBefore (h : StandsBefore (wordsOf question) token other)
    : ∃ before behind, MaximalRun (lower question).toList before token.toList behind
        ∧ ∀ before' behind',
          MaximalRun (lower question).toList before' other.toList behind' →
          before.length < before'.length := by
  obtain ⟨differ, us, vs, split, absent⟩ := h
  obtain ⟨before, rest, whole, rfl, later⟩ := List.map_eq_append_iff.mp split
  obtain ⟨w, behind, rfl, rfl, _⟩ := List.map_eq_cons_iff.mp later
  obtain ⟨front, back, run, same⟩ := exists_maximalRun whole
  rw [String.toList_ofList]
  refine ⟨front, back, run, fun before' behind' again => ?_⟩
  refine run.length_lt again ?_ fun same => differ (by rw [same, String.ofList_toList])
  rw [same]
  exact fun member => absent (List.mem_map.mpr ⟨_, member, String.ofList_toList⟩)

theorem mem_tokens_iff
    : token ∈ tokens question
      ↔ (∃ before behind, MaximalRun (lower question).toList before token.toList behind)
        ∧ minTokenLength ≤ token.length ∧ token ∉ stopWords := by
  rw [tokens, List.mem_eraseDups, List.mem_filter, isToken_iff, mem_wordsOf_iff, mem_words_iff]

theorem isToken_of_mem_tokens (member : token ∈ tokens question)
    : isToken token = true :=
  isToken_iff.mpr (mem_tokens_iff.mp member).2

theorem isWordText_of_mem_tokens (member : token ∈ tokens question)
    : IsWordText token.toList := by
  obtain ⟨⟨_, _, run⟩, _⟩ := mem_tokens_iff.mp member
  exact run.word

/-- Tokens with a blank between them are in lower case. -/
theorem lower_intercalate_tokens (question : String)
    : lower (" ".intercalate (tokens question)) = " ".intercalate (tokens question) := by
  refine lower_eq_self fun c member => ?_
  rw [String.toList_intercalate] at member
  rcases mem_intercalate member with rfl | ⟨w, found, member⟩
  · decide +kernel
  · obtain ⟨token, kept, rfl⟩ := List.mem_map.mp found
    obtain ⟨⟨_, _, run⟩, _⟩ := mem_tokens_iff.mp kept
    have inside : c ∈ (lower question).toList := by
      rw [run.whole]
      exact List.mem_append_left _ (List.mem_append_right _ member)
    exact isSmall_of_mem_lower inside

/-- Tokens with a blank between them are the words of what they make. -/
theorem wordsOf_intercalate_tokens (question : String)
    : wordsOf (" ".intercalate (tokens question)) = tokens question := by
  have proper : ∀ w ∈ (tokens question).map String.toList, IsWordText w := by
    rw [List.forall_mem_map]
    exact fun token member => isWordText_of_mem_tokens member
  rw [wordsOf, lower_intercalate_tokens, String.toList_intercalate]
  exact (congrArg _ (words_intercalate proper)).trans (by simp)

/-- The tokens of a question are what blanks divide in its lower-case form once there are blanks
for all marks, less what is short or says nothing, each once. They are the maximal runs of word
characters in this form that have three characters or more and are no stop words, in the order of
their first places. No token is empty or has a blank, a bar or any other character in it that is no
part of a word, and with single blanks between them the tokens are a question with the same tokens.
-/
theorem tokens_maximalRuns (question : String)
    : tokens question
          = (((runs (fun c => !isBlank c) (blanked (lower question).toList)).map
              String.ofList).filter isToken).eraseDups
        ∧ (∀ token, token ∈ tokens question
          ↔ (∃ before behind, MaximalRun (lower question).toList before token.toList behind)
            ∧ 3 ≤ token.length ∧ token ∉ stopWords)
        ∧ (tokens question).Nodup
        ∧ (tokens question).Pairwise (fun token other =>
          ∃ before behind, MaximalRun (lower question).toList before token.toList behind
            ∧ ∀ before' behind',
              MaximalRun (lower question).toList before' other.toList behind' →
              before.length < before'.length)
        ∧ (∀ token ∈ tokens question, token ≠ ""
          ∧ ∀ c ∈ token.toList, isWord c = true ∧ isBlank c = false ∧ c ≠ '|')
        ∧ tokens (" ".intercalate (tokens question)) = tokens question := by
  refine ⟨by rw [runs_blanked]; rfl, fun token => mem_tokens_iff, nodup_eraseDups _, ?_,
    fun token member => ?_, ?_⟩
  · refine (pairwise_eraseDups _).imp_of_mem fun {token other} _ member before => ?_
    exact exists_maximalRun_of_standsBefore (before.of_filter (isToken_of_mem_tokens member))
  · have word := isWordText_of_mem_tokens member
    refine ⟨fun empty => word.filled (by rw [empty]; rfl), fun c inside => ?_⟩
    have part := word.whole c inside
    refine ⟨part, isBlank_of_isWord part, ?_⟩
    rintro rfl
    exact absurd part (by decide)
  · have kept : ∀ token ∈ tokens question, isToken token = true := fun token member =>
      isToken_of_mem_tokens member
    rw [tokens, wordsOf_intercalate_tokens, List.filter_eq_self.mpr kept]
    exact eraseDups_eq_self (nodup_eraseDups _)

/-- A word that stands twice is one token, and a longer word that it begins is another. -/
theorem tokens_maximalRuns_trips
    : "trips" ∈ tokens "Trips, TRIPS and round-tripS by Tripster"
        ∧ (∃ before behind, MaximalRun
          (lower "Trips, TRIPS and round-tripS by Tripster").toList before "trips".toList behind)
        ∧ (∀ c ∈ "trips".toList, isWord c = true ∧ isBlank c = false ∧ c ≠ '|')
        ∧ tokens "trips round tripster" = tokens "Trips, TRIPS and round-tripS by Tripster" := by
  obtain ⟨_, named, _, _, plain, again⟩ :=
    tokens_maximalRuns "Trips, TRIPS and round-tripS by Tripster"
  have found
      : tokens "Trips, TRIPS and round-tripS by Tripster" = ["trips", "round", "tripster"] := by
    decide +kernel
  have member : "trips" ∈ tokens "Trips, TRIPS and round-tripS by Tripster" := by
    rw [found]
    exact List.mem_cons_self
  refine ⟨member, ((named _).mp member).1, (plain _ member).2, ?_⟩
  rw [found] at again ⊢
  exact again

end RideQuestions.Question
