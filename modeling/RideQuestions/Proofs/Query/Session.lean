import RideQuestions.Proofs.Matching.Memory
import RideQuestions.Proofs.Query.Rendering

/-! A compiler over a sequence of calls. What it returns depends on the configuration, the schema
published last and the question, and never on the rankings that it remembers.
-/

namespace RideQuestions.Query

open RideQuestions.Calendar

/-- One call of a compiler. -/
inductive Call where
  | publish (schema : Schema)
  | compile (question : String) (now : Instant)

/-- The schema that a call leaves published. -/
def Call.published (latest : Option Schema) : Call → Option Schema
  | publish schema => some schema
  | compile _ _ => latest

/-- The schema published last in a sequence of calls, if any. -/
def latestSchema? (calls : List Call) : Option Schema :=
  calls.foldl Call.published none

/-- The schema in use after a sequence of calls; without a published one there are no tables. -/
def latestSchema (calls : List Call) : Schema :=
  (latestSchema? calls).getD {}

namespace Compiler

/-- The compiler that a call leaves. -/
def step (c : Compiler) : Call → Compiler
  | .publish schema => c.publish schema
  | .compile question now => (c.compile question now).2

def after (c : Compiler) (calls : List Call) : Compiler :=
  calls.foldl step c

/-- What the compilations of a sequence of calls return, one after another. -/
def answers (c : Compiler) : List Call → List (Except CompileError CompiledQuery)
  | [] => []
  | .publish schema :: rest => (c.step (.publish schema)).answers rest
  | .compile question now :: rest =>
      (c.compile question now).1 :: (c.step (.compile question now)).answers rest

/-- A compiler that has done nothing but publish a schema, if one is given. -/
def fresh (config : CompilerConfig) : Option Schema → Compiler
  | none => new config
  | some schema => (new config).publish schema

/-- What the compilations of a sequence of calls return when each is the only compilation of a
fresh compiler, on which no more than the schema published last has been published. -/
def freshAnswers (config : CompilerConfig) (latest : Option Schema)
    : List Call → List (Except CompileError CompiledQuery)
  | [] => []
  | .publish schema :: rest => freshAnswers config (some schema) rest
  | .compile question now :: rest =>
      ((fresh config latest).compile question now).1 :: freshAnswers config latest rest

-----------------------------------------------------------------------------------------
-- What every call preserves
-----------------------------------------------------------------------------------------

/-- A compiler stands at a configuration and a published schema, and remembers nothing wrong. -/
structure StandsAt (c : Compiler) (config : CompilerConfig) (latest : Option Schema) : Prop where
  configured : c.config = config
  minScore : c.mapper.minScore = config.minSimilarity
  published : c.mapper.published.map Published.schema = latest
  faithful : c.mapper.Faithful

variable {c : Compiler} {config : CompilerConfig} {latest : Option Schema}

theorem standsAt_new (config : CompilerConfig)
    : (new config).StandsAt config none :=
  ⟨rfl, rfl, rfl, by rintro p ⟨⟩⟩

/-- Publishing moves to the new schema and begins with an empty cache. -/
theorem StandsAt.publish (h : c.StandsAt config latest) (schema : Schema)
    : (c.publish schema).StandsAt config (some schema) :=
  ⟨h.configured, h.minScore, rfl, c.mapper.faithful_publish schema c.config.cacheCapacity⟩

/-- Compiling changes no more than what is remembered, and remembers nothing wrong. -/
theorem StandsAt.compile (h : c.StandsAt config latest) (question : String) (now : Instant)
    : (c.compile question now).2.StandsAt config latest := by
  obtain ⟨minScore, published⟩ := c.mapper.rank_keeps (Question.tokens question)
  exact ⟨h.configured, minScore.trans h.minScore, published.trans h.published,
    h.faithful.rank_snd (Question.tokens question)⟩

/-- One call moves a compiler to the schema that the call leaves published. -/
theorem StandsAt.step (h : c.StandsAt config latest) (call : Call)
    : (c.step call).StandsAt config (call.published latest) := by
  cases call with
  | publish schema => exact h.publish schema
  | compile question now => exact h.compile question now

/-- A sequence of calls moves a compiler to the schema published last, by induction. -/
theorem StandsAt.after (h : c.StandsAt config latest) (calls : List Call)
    : (c.after calls).StandsAt config (calls.foldl Call.published latest) := by
  induction calls generalizing c latest with
  | nil => exact h
  | cons call rest ih => exact ih (h.step call)

theorem standsAt_fresh (config : CompilerConfig) (latest : Option Schema)
    : (fresh config latest).StandsAt config latest := by
  cases latest with
  | none => exact standsAt_new config
  | some schema => exact (standsAt_new config).publish schema

-----------------------------------------------------------------------------------------
-- What a compilation returns
-----------------------------------------------------------------------------------------

/-- The ranking of a question's tokens on a schema, made without a cache. -/
def rankingOf (config : CompilerConfig) (schema : Schema) (question : String)
    : List ColumnMatch :=
  Matching.rank schema config.minSimilarity
    (Matching.tokensOfKey (Matching.cacheKey (Question.tokens question)))

/-- A compilation returns what the question's reading on the published schema gives, whatever is
remembered. -/
theorem StandsAt.compile_fst (h : c.StandsAt config latest) (question : String) (now : Instant)
    : (c.compile question now).1
      = (reading config question (rankingOf config (latest.getD {}) question) now).bind
          ofReading := by
  have ranked := h.faithful.rank_fst (Question.tokens question)
  have schema : c.mapper.schema = latest.getD {} := congrArg (·.getD {}) h.published
  rw [Mapper.ranking, schema, h.minScore] at ranked
  rw [Compiler.compile, h.configured]
  generalize c.mapper.rank (Question.tokens question) = made at ranked
  obtain ⟨candidates, mapper⟩ := made
  obtain rfl : candidates = rankingOf config (latest.getD {}) question := ranked
  dsimp only

/-- From anywhere, a sequence of calls returns what fresh compilers would, by induction over the
calls: each leaves a compiler at the schema that the fresh ones publish. -/
theorem StandsAt.answers_eq (h : c.StandsAt config latest) (calls : List Call)
    : c.answers calls = freshAnswers config latest calls := by
  induction calls generalizing c latest with
  | nil => rfl
  | cons call rest ih =>
      have next := ih (h.step call)
      cases call with
      | publish schema => exact next
      | compile question now =>
          have same := (standsAt_fresh config latest).compile_fst question now
          rw [answers, freshAnswers, h.compile_fst, same, next]
          rfl

/-- Remembered rankings are invisible: every compilation in a sequence of calls returns what it
would on a fresh compiler with the schema published last. What is remembered at the end are
rankings on that schema, each of the tokens that its key stands for. -/
theorem answers_eq_freshAnswers (config : CompilerConfig) (calls : List Call)
    : (new config).answers calls = freshAnswers config none calls
      ∧ ∀ p ∈ ((new config).after calls).mapper.published,
        p.schema = latestSchema calls
          ∧ p.cache.All fun key found =>
            found = Matching.rank (latestSchema calls) config.minSimilarity
              (Matching.tokensOfKey key) := by
  refine ⟨(standsAt_new config).answers_eq calls, ?_⟩
  intro p published
  have stands := (standsAt_new config).after calls
  have latest : some p.schema = latestSchema? calls := by
    rw [← Option.map_some, ← show _ = some p from published]
    exact stands.published
  have schema : p.schema = latestSchema calls := by
    rw [latestSchema, ← latest, Option.getD_some]
  refine ⟨schema, ?_⟩
  rw [← schema, ← stands.minScore]
  exact stands.faithful p published

/-- A question is read unless its date phrase has no date. -/
theorem reading_ok_iff {question : String} {candidates : List ColumnMatch} {now : Instant}
    {r : Reading}
    : reading config question candidates now = .ok r
      ↔ ∃ span, Question.span? question now config.referenceYear = .ok span
        ∧ r = ⟨question, Intent.ofQuestion question, Question.tokens question, candidates, span,
            config.conventions⟩ := by
  unfold reading
  split
  · next h => simp [h]
  · next span h =>
      simp only [h, Except.ok.injEq, exists_eq_left']
      exact eq_comm

/-- A reading takes over the question, the candidates and the conventions. -/
theorem reading_keeps {question : String} {candidates : List ColumnMatch} {now : Instant}
    {r : Reading} (read : reading config question candidates now = .ok r)
    : r.question = question ∧ r.candidates = candidates ∧ r.conventions = config.conventions := by
  obtain ⟨span, _, rfl⟩ := reading_ok_iff.mp read
  exact ⟨rfl, rfl, rfl⟩

/-- A compiled query has the intent of its question. -/
theorem compile_intent {c : Compiler} {question : String} {now : Instant} {q : CompiledQuery}
    (compiled : (c.compile question now).1 = .ok q)
    : q.intent = Intent.ofQuestion question := by
  obtain ⟨r, read, made⟩ := bind_eq_ok_iff.mp compiled
  obtain ⟨span, _, rfl⟩ := reading_ok_iff.mp read
  unfold ofReading at made
  split at made
  · exact absurd made (by simp)
  · obtain rfl := Except.ok.inj made
    rfl

end Compiler

/-- A reading whose candidates all name columns of a schema with their tables. -/
def Reading.Over (r : Reading) (s : Schema) : Prop :=
  ∀ m ∈ r.candidates,
    ∃ table ∈ s.tables, ∃ column ∈ table.columns, m.table = table.name ∧ m.column = column.name

/-- A query compiled after some calls is the plan of a reading over the schema in use, written
with numbers. -/
theorem Compiler.compiled_written {config : CompilerConfig} {calls : List Call}
    {question : String} {now : Instant} {q : CompiledQuery}
    (compiled : (((new config).after calls).compile question now).1 = .ok q)
    : ∃ r, reading config question q.candidates now = .ok r ∧ r.Over (latestSchema calls)
      ∧ q.intent = r.intent ∧ AllPhrases (Phrase.Avoids marker) r.plan.segments
      ∧ q.text = write dollarMark r.plan.segments ∧ q.parameters = valuesOf r.plan.segments := by
  rw [((standsAt_new config).after calls).compile_fst] at compiled
  obtain ⟨r, hr, made⟩ := bind_eq_ok_iff.mp compiled
  have same : r.candidates = rankingOf config (latestSchema calls) question :=
    (reading_keeps hr).2.1
  have onSchema : r.Over (latestSchema calls) := fun m hm => Matching.mem_rank (same ▸ hm)
  unfold ofReading at made
  split at made
  · exact absurd made (by simp)
  · next text parameters rendered =>
      obtain rfl := Except.ok.inj made
      refine ⟨r, ?_, onSchema, rfl, (r.plan.render_ok_iff text parameters).mp rendered⟩
      rw [same]
      exact hr

end RideQuestions.Query
