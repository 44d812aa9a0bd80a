import RideQuestions.Proofs.Query.Binding
import RideQuestions.Proofs.Question.Tokens
import RideQuestions.Proofs.Text.Alternatives

/-! The gender that a question asks for. A compiled text has a condition on it exactly when a word
for women or men is a token, and that is when a search for these words between boundaries finds one
in the lower-case question.
-/

namespace RideQuestions.Query

open RideQuestions.Calendar RideQuestions.Text

-----------------------------------------------------------------------------------------
-- Words for women and men
-----------------------------------------------------------------------------------------

/-- Every word for women or men is long enough to be a token, and no stop word. -/
theorem isToken_of_mem_genderWords {w : String} (member : w ∈ femaleWords ++ maleWords)
    : Question.isToken w = true := by
  have all : ∀ w ∈ femaleWords ++ maleWords, Question.isToken w = true := by decide
  exact all w member

theorem isWordText_of_mem_genderWords {w : String} (member : w ∈ femaleWords ++ maleWords)
    : IsWordText w.toList := by
  have all : ∀ w ∈ femaleWords ++ maleWords, IsWordText w.toList := by decide
  exact all w member

/-- A word for women or men is a token of the questions that it is a word of. -/
theorem mem_tokens_of_genderWord {question w : String} (member : w ∈ femaleWords ++ maleWords)
    : w ∈ Question.tokens question ↔ w.toList ∈ words (lower question).toList := by
  rw [← Question.mem_wordsOf_iff, Question.tokens, List.mem_eraseDups, List.mem_filter]
  exact and_iff_left (isToken_of_mem_genderWords member)

/-- Some words for women or men are found between boundaries when one of them is a token. -/
theorem isSome_search?_genderWords {ws : List String} (known : ws ⊆ femaleWords ++ maleWords)
    (question : String)
    : (search? ws [] (lower question).toList).isSome = true
      ↔ ∃ w ∈ ws, w ∈ Question.tokens question := by
  rw [isSome_search?_iff_mem_words fun w member => isWordText_of_mem_genderWords (known member)]
  exact exists_congr fun w => and_congr_right fun member =>
    (mem_tokens_of_genderWord (known member)).symm

-----------------------------------------------------------------------------------------
-- The condition on the gender
-----------------------------------------------------------------------------------------

/-- The column and the gender of a condition on the gender of riders. -/
def Predicate.rider? : Predicate → Option (ColumnRef × Gender)
  | riderGender column gender => some (column, gender)
  | _ => none

namespace Reading

variable (r : Reading)

/-- The words of a question name one of some words for women or men when it is a token. -/
theorem any_wordsOf_iff {ws : List String} (known : ws ⊆ femaleWords ++ maleWords)
    : (Question.wordsOf r.question).any ws.contains = true
      ↔ ∃ w ∈ ws, w ∈ Question.tokens r.question := by
  rw [List.any_eq_true]
  constructor
  · rintro ⟨w, stands, held⟩
    have member := List.contains_iff_mem.mp held
    exact ⟨w, member,
      (mem_tokens_of_genderWord (known member)).mpr (Question.mem_wordsOf_iff.mp stands)⟩
  · rintro ⟨w, member, token⟩
    exact ⟨w, Question.mem_wordsOf_iff.mpr ((mem_tokens_of_genderWord (known member)).mp token),
      List.contains_iff_mem.mpr member⟩

/-- Women are asked for when a word for them is a token. -/
theorem gender?_eq_female_iff
    : r.gender? = some .female ↔ ∃ w ∈ femaleWords, w ∈ Question.tokens r.question := by
  rw [← r.any_wordsOf_iff (List.subset_append_left _ _), gender?]
  split
  · next named => exact iff_of_true rfl named
  · next unnamed =>
      refine iff_of_false ?_ unnamed
      split <;> simp

/-- Men are asked for when a word for them is a token and none for women is. -/
theorem gender?_eq_male_iff
    : r.gender? = some .male
      ↔ (∀ w ∈ femaleWords, w ∉ Question.tokens r.question)
        ∧ ∃ w ∈ maleWords, w ∈ Question.tokens r.question := by
  have women := r.any_wordsOf_iff (List.subset_append_left femaleWords maleWords)
  have none : (∀ w ∈ femaleWords, w ∉ Question.tokens r.question)
      ↔ ¬(Question.wordsOf r.question).any femaleWords.contains = true := by
    rw [women]
    push Not
    rfl
  rw [none, ← r.any_wordsOf_iff (List.subset_append_right _ _), gender?]
  split
  · next named => simp [named]
  · next unnamed =>
      rw [and_iff_right unnamed]
      split
      · next named => exact iff_of_true rfl named
      · next other => exact iff_of_false (by simp) other

/-- No gender is asked for when no word for women or men is a token. -/
theorem gender?_eq_none_iff
    : r.gender? = none
      ↔ ∀ w ∈ femaleWords ++ maleWords, w ∉ Question.tokens r.question := by
  have women := r.gender?_eq_female_iff
  have men := r.gender?_eq_male_iff
  rw [List.forall_mem_append]
  cases named : r.gender? with
  | none =>
      rw [named] at women men
      have unnamed : ∀ w ∈ femaleWords, w ∉ Question.tokens r.question := fun w member token =>
        absurd (women.mpr ⟨w, member, token⟩) (by simp)
      refine iff_of_true rfl ⟨unnamed, fun w member token => ?_⟩
      exact absurd (men.mpr ⟨unnamed, w, member, token⟩) (by simp)
  | some gender =>
      rw [named] at women men
      refine iff_of_false (by simp) fun unnamed => ?_
      cases gender with
      | female =>
          obtain ⟨w, member, token⟩ := women.mp rfl
          exact unnamed.1 w member token
      | male =>
          obtain ⟨_, w, member, token⟩ := men.mp rfl
          exact unnamed.2 w member token

/-- There is at most one condition on the gender, for the gender that is asked for. -/
theorem filterMap_rider?_predicates
    : r.predicates.filterMap Predicate.rider?
      = r.gender?.toList.map fun gender => (r.conventions.factGender, gender) := by
  have period : (r.span.map (Predicate.startedWithin r.conventions.factStart)).toList.filterMap
      Predicate.rider? = [] := by
    cases r.span <;> rfl
  have gender : (r.gender?.map (Predicate.riderGender r.conventions.factGender)).toList.filterMap
      Predicate.rider? = r.gender?.toList.map fun gender => (r.conventions.factGender, gender) := by
    cases r.gender? <;> rfl
  rw [predicates, List.filterMap_append, List.filterMap_append, List.filterMap_append, period,
    gender]
  cases r.needsWeather <;> cases r.namesLocation <;> simp [Predicate.rider?]

end Reading

-----------------------------------------------------------------------------------------
-- Compiled queries
-----------------------------------------------------------------------------------------

/-- A compiled text has one condition on the gender or none: for women exactly when a word for them
is a token of the question, for men exactly when one for men is and none for women, and none exactly
when no such word is. It stands between the other conditions with the gender as its value. A word
for women or men is a token exactly when it is a maximal run of word characters in the lower-case
question, so that one inside a longer word does not count, and one is found between two boundaries
exactly when one is a token. -/
theorem Compiler.compiled_gender (config : CompilerConfig) (calls : List Call) (question : String)
    (now : Instant) (q : CompiledQuery)
    (compiled : (((new config).after calls).compile question now).1 = .ok q)
    : (∃ r, reading config question q.candidates now = .ok r
        ∧ q.text = write dollarMark r.plan.segments
        ∧ (∀ earlier p later, r.predicates = earlier ++ p :: later → p.StandsIn q earlier later)
        ∧ (r.predicates.filterMap Predicate.rider? = [(config.conventions.factGender, .female)]
          ↔ ∃ w ∈ ["women", "woman", "female", "females"], w ∈ Question.tokens question)
        ∧ (r.predicates.filterMap Predicate.rider? = [(config.conventions.factGender, .male)]
          ↔ (∀ w ∈ ["women", "woman", "female", "females"], w ∉ Question.tokens question)
            ∧ ∃ w ∈ ["men", "man", "male", "males"], w ∈ Question.tokens question)
        ∧ (r.predicates.filterMap Predicate.rider? = []
          ↔ ∀ w ∈ femaleWords ++ maleWords, w ∉ Question.tokens question))
      ∧ (∀ w ∈ femaleWords ++ maleWords, w ∈ Question.tokens question
        ↔ ∃ before behind, MaximalRun (lower question).toList before w.toList behind)
      ∧ ((search? femaleWords [] (lower question).toList).isSome = true
        ↔ ∃ w ∈ femaleWords, w ∈ Question.tokens question)
      ∧ ((search? maleWords [] (lower question).toList).isSome = true
        ↔ ∃ w ∈ maleWords, w ∈ Question.tokens question) := by
  obtain ⟨r, read, _, _, _, text, values⟩ := compiled_written compiled
  obtain ⟨asked, _, conventions⟩ := reading_keeps read
  have conditions := r.filterMap_rider?_predicates
  have single (gender : Gender)
      : r.predicates.filterMap Predicate.rider? = [(config.conventions.factGender, gender)]
        ↔ r.gender? = some gender := by
    rw [conditions, conventions]
    cases r.gender? <;> simp
  have absent : r.predicates.filterMap Predicate.rider? = [] ↔ r.gender? = none := by
    rw [conditions]
    cases r.gender? <;> simp
  refine ⟨⟨r, read, text, fun earlier p later => Plan.standsIn text values, ?_, ?_, ?_⟩,
    fun w member => ?_, ?_, ?_⟩
  · rw [single, r.gender?_eq_female_iff, asked]
    rfl
  · rw [single, r.gender?_eq_male_iff, asked]
    rfl
  · rw [absent, r.gender?_eq_none_iff, asked]
  · rw [mem_tokens_of_genderWord member, mem_words_iff]
  · exact isSome_search?_genderWords (List.subset_append_left _ _) question
  · exact isSome_search?_genderWords (List.subset_append_right _ _) question

/-- Men who mention humans are men, and women that a word goes on behind are none. -/
theorem Compiler.compiled_gender_mention
    : ∃ (q : CompiledQuery) (r : Reading), (((new {}).after [.publish rideSchema]).compile
          "Trips of men who mention humans or womenswear" midyear).1 = .ok q
        ∧ q.text = write dollarMark r.plan.segments
        ∧ r.predicates.filterMap Predicate.rider? = [(({} : Conventions).factGender, .male)] := by
  obtain ⟨q, compiled⟩ := (exists_compiled_iff {} [.publish rideSchema]
    "Trips of men who mention humans or womenswear" midyear (by decide)).mpr ⟨none, rfl⟩
  obtain ⟨⟨r, _, text, _, _, men, _⟩, _⟩ :=
    compiled_gender {} [.publish rideSchema] _ midyear q compiled
  have found : Question.tokens "Trips of men who mention humans or womenswear"
      = ["trips", "men", "mention", "humans", "womenswear"] := by decide +kernel
  refine ⟨q, r, compiled, text, men.mpr ?_⟩
  rw [found]
  decide

end RideQuestions.Query
