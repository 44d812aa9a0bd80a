import RideQuestions.Proofs.Sql.Acceptance

/-! Where a separator cuts. Behind tokens that open and close nothing it ends the statement, and
what begins behind it makes the same statements there as it does on its own.
-/

namespace RideQuestions.Sql

open RideQuestions.Text

-----------------------------------------------------------------------------------------
-- Up to the separator
-----------------------------------------------------------------------------------------

/-- A token that opens and closes nothing and ends no statement. -/
structure Token.Flat (t : Token) : Prop where
  inner : t.Inner
  level : ∀ p : Progress, (p.nest t).level = p.level
  blockDepth : ∀ p : Progress, (p.nest t).blockDepth = p.blockDepth

/-- Nothing is open, so that a separator ends the statement. -/
structure Progress.Outer (p : Progress) : Prop where
  level : p.level = 0
  blockDepth : p.blockDepth = 0
  goes : p.ended = false

/-- A token changes what is open only as a parenthesis or keyword. -/
theorem Progress.nest_eq_self (p : Progress) {t : Token} (opens : t.isMark "(" = false)
    (closes : t.isMark ")" = false) (keyword : t.isKeyword = false)
    : p.nest t = p := by
  simp [nest, opens, closes, keyword]

theorem Token.flat_of_noKeyword {t : Token} (inner : t.Inner) (opens : t.isMark "(" = false)
    (closes : t.isMark ")" = false) (keyword : t.isKeyword = false)
    : t.Flat := by
  have same (p : Progress) : p.nest t = p := p.nest_eq_self opens closes keyword
  exact ⟨inner, fun p => by rw [same], fun p => by rw [same]⟩

theorem Progress.outer_new
    : Progress.Outer {} :=
  ⟨rfl, rfl, rfl⟩

theorem Progress.outer_take {p : Progress} {t : Token} (h : p.Outer) (flat : t.Flat)
    : (p.take t).Outer := by
  have level := (flat.level p).trans h.level
  have depth := (flat.blockDepth p).trans h.blockDepth
  refine ⟨?_, ?_, ended_take flat.inner h.goes⟩
  all_goals
    rw [take]
    dsimp only
    rw [flat.inner.separator, flat.inner.batch, if_neg Bool.false_ne_true,
      if_neg Bool.false_ne_true]
    split <;> assumption

/-- The token that separates statements. -/
def separator : Token :=
  ⟨.punctuation, ";"⟩

theorem Progress.ended_of_separator {p : Progress} (h : p.Outer)
    : (p.take separator).ended = true := by
  have ends : separator.isMark ";" = true := by decide
  have same : p.nest separator = p := p.nest_eq_self (by decide) (by decide) (by decide)
  rw [take, same]
  dsimp only
  rw [ends, if_pos rfl]
  simp [h.level, h.blockDepth]

/-- Flat tokens stay in the statement that they begin in, and leave nothing open, by induction. -/
theorem splitFrom_flat {p : Progress} (h : p.Outer) {passed : List Token}
    (flat : ∀ t ∈ passed, t.Flat) (current rest : List Token)
    : ∃ q : Progress, q.Outer
        ∧ splitFrom p current (passed ++ rest) = splitFrom q (passed.reverse ++ current) rest := by
  induction passed generalizing p current with
  | nil => exact ⟨p, h, rfl⟩
  | cons t passed ih =>
      obtain ⟨first, others⟩ := List.forall_mem_cons.mp flat
      obtain ⟨q, outer, same⟩ := ih (Progress.outer_take h first) others (t :: current)
      refine ⟨q, outer, ?_⟩
      rw [List.cons_append, splitFrom, h.goes, Bool.false_and, if_neg Bool.false_ne_true, same]
      simp

-----------------------------------------------------------------------------------------
-- Behind the separator
-----------------------------------------------------------------------------------------

theorem Progress.take_of_isWhite (p : Progress) {t : Token} (white : t.isWhite = true)
    : p.take t = p := by
  have mark := Token.isMark_of_isWhite white
  have same : p.nest t = p :=
    p.nest_eq_self (mark "(") (mark ")") (Token.isKeyword_of_isWhite white)
  rw [take, same, mark ";", separatesBatches_of_isWhite white]
  simp [Token.isSignificant, white]

theorem Token.flat_of_isWhite {t : Token} (white : t.isWhite = true)
    : t.Flat :=
  flat_of_noKeyword (inner_of_isWhite white) (isMark_of_isWhite white "(")
    (isMark_of_isWhite white ")") (isKeyword_of_isWhite white)

/-- White space at the beginning of a statement goes on with it, by induction. -/
theorem splitFrom_white {p : Progress} (goes : p.ended = false) {white : List Token}
    (blank : ∀ t ∈ white, t.isWhite = true) (current rest : List Token)
    : splitFrom p current (white ++ rest) = splitFrom p (white.reverse ++ current) rest := by
  induction white generalizing current with
  | nil => rfl
  | cons t white ih =>
      obtain ⟨first, others⟩ := List.forall_mem_cons.mp blank
      rw [List.cons_append, splitFrom, goes, Bool.false_and, if_neg Bool.false_ne_true,
        p.take_of_isWhite first, ih others]
      simp

/-- White space in front of a token that says something belongs to the statement that has ended as
far as it may trail, and otherwise to the next one. By induction on the white space. -/
theorem splitFrom_ended {p : Progress} (ended : p.ended = true) {white : List Token}
    (blank : ∀ t ∈ white, t.isWhite = true) {t : Token} (stays : t.mayTrail = false)
    (current rest : List Token)
    : ∃ trailing leading, white = trailing ++ leading
        ∧ splitFrom p current (white ++ t :: rest)
          = (current.reverse ++ trailing)
            :: splitFrom (Progress.take {} t) (t :: leading.reverse) rest := by
  induction white generalizing current with
  | nil =>
      refine ⟨[], [], rfl, ?_⟩
      rw [List.nil_append, splitFrom, ended, stays]
      simp
  | cons w white ih =>
      obtain ⟨first, others⟩ := List.forall_mem_cons.mp blank
      rw [List.cons_append, splitFrom, ended, p.take_of_isWhite first]
      cases trails : w.mayTrail with
      | true =>
          obtain ⟨trailing, leading, rfl, same⟩ := ih others (w :: current)
          refine ⟨w :: trailing, leading, rfl, ?_⟩
          rw [if_neg (by decide), same]
          simp
      | false =>
          -- The next statement begins here and has said nothing yet, so that it goes on.
          refine ⟨[], w :: white, rfl, ?_⟩
          rw [if_pos (by decide), Progress.take_of_isWhite {} first, splitFrom_white rfl others,
            splitFrom, Bool.false_and, if_neg Bool.false_ne_true]
          simp

/-- What stands before a statement that says something changes nothing else, by induction on the
tokens. -/
theorem splitFrom_append (p : Progress) (current rest : List Token)
    (visible : ∃ t ∈ current, t.isWhite = false)
    : ∃ first others, splitFrom p current rest = (current.reverse ++ first) :: others
        ∧ ∀ before, splitFrom p (current ++ before) rest
            = (before.reverse ++ (current.reverse ++ first)) :: others := by
  induction rest generalizing p current with
  | nil =>
      obtain ⟨u, member, seen⟩ := visible
      refine ⟨[], [], ?_, fun before => ?_⟩
      · rw [splitFrom_nil ⟨u, member, seen⟩, List.append_nil]
      · rw [splitFrom_nil ⟨u, List.mem_append_left before member, seen⟩, List.append_nil,
          List.reverse_append]
  | cons t rest ih =>
      cases cut : p.ended && !t.mayTrail with
      | true =>
          refine ⟨[], splitFrom (Progress.take {} t) [t] rest, ?_, fun before => ?_⟩
          · rw [splitFrom, if_pos cut, List.append_nil]
          · rw [splitFrom, if_pos cut, List.append_nil, List.reverse_append]
      | false =>
          obtain ⟨u, member, seen⟩ := visible
          obtain ⟨first, others, same, further⟩ :=
            ih (p.take t) (t :: current) ⟨u, List.mem_cons_of_mem t member, seen⟩
          refine ⟨t :: first, others, ?_, fun before => ?_⟩
          · rw [splitFrom, if_neg (by simp [cut]), same]
            simp
          · rw [splitFrom, if_neg (by simp [cut]), ← List.cons_append, further]
            simp

-----------------------------------------------------------------------------------------
-- On both sides
-----------------------------------------------------------------------------------------

theorem Token.mayTrail_of_isSignificant {t : Token} (speaks : t.isSignificant = true)
    : t.isWhite = false ∧ t.mayTrail = false := by
  simp only [isSignificant, isComment, Bool.and_eq_true, Bool.not_eq_true', Bool.or_eq_false_iff,
    isWhite] at speaks ⊢
  exact ⟨speaks.1, by rw [mayTrail, speaks.1.1, speaks.2.1]; rfl⟩

/-- A separator behind flat tokens makes a statement of them. Behind it and white space, the
statements are those that the tokens there make on their own, but for white space in front of the
first. -/
theorem statements_separated {passed white : List Token} {t : Token} (rest : List Token)
    (flat : ∀ u ∈ passed, u.Flat) (blank : ∀ u ∈ white, u.isWhite = true)
    (speaks : t.isSignificant = true)
    : ∃ trailing leading first others, white = trailing ++ leading
        ∧ statements (t :: rest) = (t :: first) :: others
        ∧ statements (passed ++ separator :: (white ++ t :: rest))
          = (passed ++ separator :: trailing) :: (leading ++ t :: first) :: others := by
  obtain ⟨seen, trails⟩ := Token.mayTrail_of_isSignificant speaks
  obtain ⟨q, outer, inside⟩ :=
    splitFrom_flat Progress.outer_new flat [] (separator :: (white ++ t :: rest))
  obtain ⟨trailing, leading, split, behind⟩ :=
    splitFrom_ended (Progress.ended_of_separator outer) blank trails
      (separator :: (passed.reverse ++ [])) rest
  obtain ⟨first, others, own, further⟩ :=
    splitFrom_append (Progress.take {} t) [t] rest ⟨t, List.mem_singleton_self t, seen⟩
  refine ⟨trailing, leading, first, others, split, ?_, ?_⟩
  · rw [statements, splitFrom, Bool.false_and, if_neg Bool.false_ne_true, own]
    rfl
  · have next := further leading.reverse
    rw [List.singleton_append] at next
    rw [statements, inside, splitFrom, outer.goes, Bool.false_and, if_neg Bool.false_ne_true,
      behind, next]
    simp

-----------------------------------------------------------------------------------------
-- The verdict
-----------------------------------------------------------------------------------------

section Verdict

variable {grouping : Grouping} {text : String} (said : isBlankText text = false)
  (parameters : Option Nat) (readOnly : Bool)
include said

/-- A text is not looked at when one of its statements is not grouped. -/
theorem inspect_of_refusal {error : GroupingError} (refused : refusal? grouping text = some error)
    : inspect text parameters readOnly grouping = .error (.grouping error) := by
  rw [inspect, said, if_neg Bool.false_ne_true, refused]

/-- Two statements that say something are one too many. -/
theorem inspect_several {first second : Statement} {others : List Statement}
    (cut : statements (tokens (trim text)) = first :: second :: others)
    (firstSays : ∃ t ∈ first, t.isSignificant = true)
    (secondSays : ∃ t ∈ second, t.isSignificant = true) (grouped : refusal? grouping text = none)
    {binding : List Complaint} (read : bindingComplaints text parameters = .ok binding)
    : ∃ verdict, inspect text parameters readOnly grouping = .ok verdict
        ∧ verdict.isValid = false ∧ Complaint.severalStatements ∈ verdict.complaints := by
  have kept {s : Statement} (speaks : ∃ t ∈ s, t.isSignificant = true) (rest : List Statement)
      : (s :: rest).filter (fun s => !s.significant.isEmpty)
        = s :: rest.filter fun s => !s.significant.isEmpty := by
    obtain ⟨t, member, significant⟩ := speaks
    have stands : t ∈ s.significant := List.mem_filter.mpr ⟨member, significant⟩
    refine List.filter_cons_of_pos ?_
    rw [Bool.not_eq_true', List.isEmpty_eq_false_iff]
    exact List.ne_nil_of_mem stands
  rw [inspect, said, if_neg Bool.false_ne_true, grouped, cut, kept firstSays, kept secondSays]
  dsimp only [verdictOn]
  rw [read]
  exact ⟨_, rfl, rfl, List.mem_cons_self⟩

end Verdict

end RideQuestions.Sql
