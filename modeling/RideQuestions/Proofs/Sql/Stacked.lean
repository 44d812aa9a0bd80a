import RideQuestions.Proofs.Sql.Nested

/-! Stacked statements. A separator behind the words of a reading query ends it, and what begins
with a letter behind that is a further statement whatever it goes on with.
-/

namespace RideQuestions.Sql

open RideQuestions.Text

-----------------------------------------------------------------------------------------
-- A separator and what stands behind it
-----------------------------------------------------------------------------------------

/-- A reading query of some words, a separator, and another text, with what stands in front of the
separator and behind it. -/
def stacked (words : List Spaced) (before behind tail : String) : String :=
  "SELECT" ++ String.join (words.map Spaced.text) ++ before ++ ";" ++ behind ++ tail

theorem toList_stacked (words : List Spaced) (before behind tail : String)
    : (stacked words before behind tail).toList
      = selectWord
        ++ (spaced words ++ (before.toList ++ ';' :: (behind.toList ++ tail.toList))) := by
  have joined : (String.join (words.map Spaced.text)).toList = spaced words := by
    rw [String.toList_join, List.flatMap_map]
    rfl
  have marks : "SELECT".toList = selectWord ∧ ";".toList = [';'] := by decide
  simp only [stacked, String.toList_append, joined, marks.1, marks.2, List.append_assoc,
    List.cons_append, List.nil_append]

theorem isBlankText_stacked (words : List Spaced) (before behind tail : String)
    : isBlankText (stacked words before behind tail) = false := by
  have first : isBlank 'S' = false := by decide
  rw [isBlankText, toList_stacked, selectWord, List.cons_append, List.all_cons, first,
    Bool.false_and]

/-- Trimming cuts the end of the last text off and nothing else. -/
theorem toList_trim_stacked (words : List Spaced) (before behind : String) {tail : String}
    (letter : ∃ c ∈ plainLetters, tail.toList.head? = some c)
    : (trim (stacked words before behind tail)).toList
        = selectWord
          ++ (spaced words ++ (before.toList ++ ';' :: (behind.toList ++ (trim tail).toList)))
      ∧ ∃ c ∈ plainLetters, (trim tail).toList.head? = some c := by
  obtain ⟨c, known, first⟩ := letter
  obtain ⟨rest, same⟩ := List.head?_eq_some_iff.mp first
  have noBlank : ∀ c ∈ plainLetters, isBlank c = false := fun c known =>
    (apart_of_start (List.mem_cons_of_mem '_' known)).1
  have tailLeft : (trim tail).toList = [] ++ c :: dropEndWhile isBlank rest :=
    toList_trim (by simpa [first] using noBlank c known) same (noBlank c known)
  have whole := toList_stacked words before behind tail
  have opens : ∀ d ∈ (stacked words before behind tail).toList.head?, isBlank d = false := by
    rw [whole]
    rintro d ⟨⟩
    exact noBlank 'S' (by decide)
  have split : (stacked words before behind tail).toList
      = selectWord ++ (spaced words ++ (before.toList ++ ';' :: behind.toList)) ++ c :: rest := by
    rw [whole, same]
    simp
  refine ⟨?_, c, known, by rw [tailLeft]; rfl⟩
  rw [toList_trim opens split (noBlank c known), tailLeft]
  simp

section Stacked

variable {words : List Spaced} {before behind tail : String} (fine : ∀ s ∈ words, s.Fine)
  (blankBefore : ∀ c ∈ before.toList, isBlank c = true)
  (blankBehind : ∀ c ∈ behind.toList, isBlank c = true)
  (letter : ∃ c ∈ plainLetters, tail.toList.head? = some c)
include fine blankBefore blankBehind letter

/-- The tokens of such a text are flat up to the separator, and white space and the tokens of the
last text behind it. -/
theorem tokens_stacked
    : ∃ passed white, tokens (trim (stacked words before behind tail))
          = ⟨.keyword .rows, "SELECT"⟩ :: passed ++ separator :: (white ++ tokens (trim tail))
        ∧ (∀ t ∈ passed, t.Flat) ∧ ∀ t ∈ white, t.isWhite = true := by
  obtain ⟨whole, c, known, first⟩ := toList_trim_stacked words before behind letter
  obtain ⟨rest, same⟩ := List.head?_eq_some_iff.mp first
  have noBlank : ∀ c ∈ plainLetters, isBlank c = false ∧ c ≠ '\n' := by decide
  have separated : ∃ rest, (before.toList ++ ';' :: (behind.toList ++ (trim tail).toList)).dropWhile
      isBlank = ';' :: rest := by
    refine ⟨behind.toList ++ (trim tail).toList, ?_⟩
    rw [List.dropWhile_append_of_pos blankBefore]
    exact List.dropWhile_cons_of_neg (by decide)
  have begins := tokensFrom_select (apart_spaced separated fine)
    (pointAhead_eq_false (noPoint_spaced separated fine))
  obtain ⟨passed, _, noPoint, flat, cut⟩ :=
    ((through_spaced separated fine).trans (through_blanks (P := Token.Flat) blankBefore (by simp)
      fun t => Token.flat_of_isWhite)) (some 'T') (by decide)
  obtain ⟨white, _, noPoint, allWhite, cutWhite⟩ :=
    through_blanks (P := (·.isWhite = true)) blankBehind
      (by rw [first]; simpa using (noBlank c known).2) (fun t white => white) (some ';') (by decide)
  refine ⟨passed, white, ?_, flat, allWhite⟩
  rw [tokens, whole, begins, cut, tokensFrom_mark (by decide), cutWhite,
    tokensFrom_start ⟨c, List.mem_cons_of_mem '_' known, first⟩ noPoint]
  rfl

/-- Such a text has one statement more than the last text, and white space in front of its first. -/
theorem statements_stacked
    : ∃ opening leading first others, statements (tokens (trim tail)) = first :: others
        ∧ statements (tokens (trim (stacked words before behind tail)))
          = opening :: (leading ++ first) :: others
        ∧ (∀ t ∈ leading, t.isWhite = true)
        ∧ (∃ t ∈ opening, t.isSignificant = true) ∧ ∃ t ∈ first, t.isSignificant = true := by
  obtain ⟨passed, white, cut, flat, blank⟩ :=
    tokens_stacked fine blankBefore blankBehind letter
  obtain ⟨_, c, known, head⟩ := toList_trim_stacked words before behind letter
  obtain ⟨more, same⟩ := List.head?_eq_some_iff.mp head
  have start : c ∈ nameStarts := List.mem_cons_of_mem '_' known
  obtain ⟨t, rest, tailTokens, speaks⟩ : ∃ t rest, tokens (trim tail) = t :: rest
      ∧ t.isSignificant = true :=
    ⟨tokenAt none (c :: more), _, by rw [tokens, same, tokensFrom_zero],
      isSignificant_start start none _⟩
  have select : Token.Flat ⟨.keyword .rows, String.ofList selectWord⟩ :=
    flat_name (by decide) (by decide) _
  have allFlat := List.forall_mem_cons.mpr ⟨select, flat⟩
  obtain ⟨trailing, leading, first, others, rfl, own, whole⟩ :=
    statements_separated rest allFlat blank speaks
  obtain ⟨_, leads⟩ := List.forall_mem_append.mp blank
  exact ⟨_, leading, t :: first, others, by rw [tailTokens, own], by rw [cut, tailTokens, whole],
    leads, ⟨⟨.keyword .rows, "SELECT"⟩, by simp, rfl⟩, t, List.mem_cons_self, speaks⟩

/-- Where it is grouped, such a text has a statement too many. -/
theorem inspect_stacked_several {grouping : Grouping} {parameters : Option Nat} (readOnly : Bool)
    (grouped : refusal? grouping (stacked words before behind tail) = none)
    {binding : List Complaint}
    (read : bindingComplaints (stacked words before behind tail) parameters = .ok binding)
    : ∃ verdict,
        inspect (stacked words before behind tail) parameters readOnly grouping = .ok verdict
        ∧ verdict.isValid = false ∧ Complaint.severalStatements ∈ verdict.complaints := by
  obtain ⟨opening, leading, first, others, own, whole, _, opens, ⟨t, member, speaks⟩⟩ :=
    statements_stacked fine blankBefore blankBehind letter
  exact inspect_several (isBlankText_stacked words before behind tail) parameters readOnly whole
    opens ⟨t, List.mem_append_right leading member, speaks⟩ grouped read

end Stacked

/-- Stacked statements are refused, in whatever way their tokens are grouped. Whatever begins with a
letter behind the separator, there is a statement too many, unless a group of one of the statements
lies too deep or has too many parts for the text to be looked at; few tokens always can be. -/
theorem inspect_stacked (grouping : Grouping) {words : List Spaced} {before behind tail : String}
    (fine : ∀ s ∈ words, s.Fine) (blankBefore : ∀ c ∈ before.toList, isBlank c = true)
    (blankBehind : ∀ c ∈ behind.toList, isBlank c = true)
    (letter : ∃ c ∈ plainLetters, tail.toList.head? = some c) (parameters : Option Nat)
    (readOnly : Bool)
    : (∀ error, refusal? grouping (stacked words before behind tail) = some error →
        inspect (stacked words before behind tail) parameters readOnly grouping
          = .error (.grouping error))
      ∧ (refusal? grouping (stacked words before behind tail) = none →
        ∀ binding, bindingComplaints (stacked words before behind tail) parameters = .ok binding →
          ∃ verdict,
            inspect (stacked words before behind tail) parameters readOnly grouping = .ok verdict
            ∧ verdict.isValid = false ∧ "Multiple statements are not allowed" ∈ verdict.errors)
      ∧ ((∀ s ∈ statements (tokens (trim (stacked words before behind tail))),
          s.weight ≤ depthLimit ∧ s.length ≤ partLimit) →
        refusal? grouping (stacked words before behind tail) = none) := by
  refine ⟨fun error refused => ?_, fun grouped binding read => ?_, refusal?_of_light grouping⟩
  · exact inspect_of_refusal (isBlankText_stacked words before behind tail) parameters readOnly
      refused
  · obtain ⟨verdict, looked, valid, several⟩ :=
      inspect_stacked_several fine blankBefore blankBehind letter readOnly grouped read
    exact ⟨verdict, looked, valid, List.mem_map.mpr ⟨.severalStatements, several, rfl⟩⟩

/-- A table is dropped behind a reading query. -/
theorem inspect_stacked_drop
    : ∃ verdict,
        inspect
            (stacked [⟨" ", "a"⟩, ⟨", ", "b"⟩, ⟨" ", "FROM"⟩, ⟨" ", "trips"⟩] "" " "
              "DROP TABLE t")
            none true
          = .ok verdict
        ∧ verdict.isValid = false ∧ "Multiple statements are not allowed" ∈ verdict.errors := by
  have fine : ∀ s ∈ [Spaced.mk " " "a", ⟨", ", "b"⟩, ⟨" ", "FROM"⟩, ⟨" ", "trips"⟩], s.Fine := by
    simp only [List.forall_mem_cons]
    exact ⟨⟨by decide, by decide, by decide, by decide⟩,
      ⟨by decide, by decide, by decide, by decide⟩, ⟨by decide, by decide, by decide, by decide⟩,
      ⟨by decide, by decide, by decide, by decide⟩, nofun⟩
  have letter : ∃ c ∈ plainLetters, "DROP TABLE t".toList.head? = some c :=
    ⟨'D', by decide, by decide⟩
  have blankBefore : ∀ c ∈ "".toList, isBlank c = true := by decide
  have blankBehind : ∀ c ∈ " ".toList, isBlank c = true := by decide
  obtain ⟨_, several, light⟩ :=
    inspect_stacked .pairs fine blankBefore blankBehind letter none true
  exact several (light (by decide +kernel)) [] rfl

/-- Behind a separator, brackets that lie deep inside one another keep a text from being looked
at. -/
theorem inspect_stacked_nested
    : ¬ ∃ verdict, inspect (stacked [⟨" ", "a"⟩] "" "" (nested 300)) none true = .ok verdict
        ∧ verdict.isValid = false ∧ "Multiple statements are not allowed" ∈ verdict.errors := by
  have fine : ∀ s ∈ [Spaced.mk " " "a"], s.Fine :=
    List.forall_mem_singleton.mpr ⟨by decide, by decide, by decide, by decide⟩
  have letter : ∃ c ∈ plainLetters, (nested 300).toList.head? = some c :=
    ⟨'f', by decide, by rw [nested, String.toList_ofList]; rfl⟩
  have noGap : ∀ c ∈ "".toList, isBlank c = true := by decide
  obtain ⟨opening, leading, first, others, own, whole, leads, _⟩ :=
    statements_stacked fine noGap noGap letter
  obtain ⟨passed, apart, cut⟩ := statements_nested (by decide : 300 ≠ 0)
  obtain ⟨rfl, rfl⟩ := List.cons.inj (own.symm.trans cut)
  have deep : (Grouping.pairs.refusal? (leading ++ (passed ++ brackets 300))).isSome = true := by
    rw [← List.append_assoc]
    refine refusal?_brackets (by decide) (List.forall_mem_append.mpr ⟨fun t member => ?_, apart⟩)
    exact Token.noBracket_of_isWhite (leads t member)
  have refused : (refusal? .pairs (stacked [⟨" ", "a"⟩] "" "" (nested 300))).isSome = true := by
    rw [refusal?, whole, List.findSome?_isSome_iff]
    exact ⟨_, by simp, deep⟩
  obtain ⟨error, refused⟩ := Option.isSome_iff_exists.mp refused
  rintro ⟨verdict, looked, _⟩
  rw [inspect_of_refusal (isBlankText_stacked _ _ _ _) none true refused] at looked
  exact absurd looked (by simp)

end RideQuestions.Sql
