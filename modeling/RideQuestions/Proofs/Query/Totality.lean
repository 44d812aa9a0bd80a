import RideQuestions.Proofs.Query.Accepted
import RideQuestions.Proofs.Question.Dating

/-! Compilation never fails. Names without open marks and an instant that has a month before it are
enough for every question to be compiled, to a text that begins with SELECT.
-/

namespace RideQuestions.Query

open RideQuestions.Calendar RideQuestions.Text

-----------------------------------------------------------------------------------------
-- How texts begin
-----------------------------------------------------------------------------------------

/-- The word with which a query that reads begins, and the blank behind it. -/
def selectWord : List Char :=
  "SELECT ".toList

/-- A projection begins with words of its own, and these with the same one. -/
theorem Projection.segments_begin (p : Projection)
    : ∃ text rest, p.segments = .words text :: rest ∧ selectWord <+: text.toList := by
  cases p <;> exact ⟨_, _, rfl, by decide⟩

/-- A plan begins as its projection does, whatever marks are written for its values. -/
theorem Plan.writeFrom_begins (p : Plan) (mark : Nat → List Char) (count : Nat)
    : selectWord <+: writeFrom mark count p.segments := by
  obtain ⟨text, rest, opens, begins⟩ := p.projection.segments_begin
  rw [p.segments_eq, opens, List.cons_append, writeFrom]
  exact begins.trans (List.prefix_append _ _)

/-- A text that begins so says something. -/
theorem isEmptyText_of_begins {text : String} (begins : selectWord <+: text.toList)
    : isEmptyText text = false := by
  have letter : 'S' ∈ text.toList := begins.subset (by decide)
  exact List.all_eq_false.mpr ⟨'S', letter, by decide⟩

-----------------------------------------------------------------------------------------
-- Compiled questions
-----------------------------------------------------------------------------------------

namespace Compiler

/-- A compiled text begins with the word of a query that reads, whatever the schema's names. -/
theorem compiled_begins {config : CompilerConfig} {calls : List Call} {question : String}
    {now : Instant} {q : CompiledQuery}
    (compiled : (((new config).after calls).compile question now).1 = .ok q)
    : selectWord <+: q.text.toList := by
  obtain ⟨r, _, _, _, _, text, _⟩ := compiled_written compiled
  rw [text, write, String.toList_ofList]
  exact r.plan.writeFrom_begins dollarMark 0

/-- Every question is compiled, the empty one for a missing one. Whatever was published and compiled
before, names of the schema and of the conventions without open marks leave no check of a clause
that could fail, and a reference year that may be configured, with any instant but those of the very
first month, no date that could be missing. The text begins with SELECT and is not empty. -/
theorem compile_total (config : CompilerConfig) (calls : List Call) (question : Option String)
    (now : Instant)
    (plain : ∀ name ∈ vocabulary (latestSchema calls) config.conventions, marker ∉ name.toList)
    (reference : 1900 ≤ config.referenceYear ∧ config.referenceYear ≤ 2100)
    (later : ¬(now.date.year = 1 ∧ now.date.month = 1))
    : ∃ q, (((new config).after calls).compile (question.getD "") now).1 = .ok q
        ∧ "SELECT ".toList <+: q.text.toList ∧ isEmptyText q.text = false := by
  have inside : 1 ≤ config.referenceYear ∧ config.referenceYear ≤ 9999 := by omega
  have dated := (Question.exists_span_iff (question.getD "") now inside).mpr fun _ => later
  obtain ⟨q, compiled⟩ := (exists_compiled_iff config calls _ now plain).mpr dated
  have begins := compiled_begins compiled
  exact ⟨q, compiled, begins, isEmptyText_of_begins begins⟩

/-- In the second month of all, last month is still a month. -/
theorem compile_total_lastMonth
    : ∃ q, (((new {}).after [.publish rideSchema]).compile ((some "rides last month").getD "")
          ⟨⟨1, 2, 1, by decide, by decide, by decide, by decide, by decide, by decide⟩,
            .startOfDay⟩).1 = .ok q
        ∧ "SELECT ".toList <+: q.text.toList ∧ isEmptyText q.text = false :=
  compile_total {} [.publish rideSchema] (some "rides last month") _ (by decide) (by decide)
    (by decide)

end Compiler

end RideQuestions.Query
