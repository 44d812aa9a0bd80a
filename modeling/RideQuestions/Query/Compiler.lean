import RideQuestions.Matching.Mapper
import RideQuestions.Query.Planning
import RideQuestions.Question.DatePhrase

/-! Compiling a question into one query with numbered placeholders. A question without any known
words asks for everything in the fact table.
-/

namespace RideQuestions.Query

open RideQuestions.Calendar

inductive CompileError where
  | unbalanced (reason : Unbalanced)
  | calendar (reason : CalendarError)

def CompileError.message : CompileError → String
  | unbalanced reason => reason.message
  | calendar reason => reason.message

/-- Whether a number was too great to be looked at. -/
def CompileError.isOverflow : CompileError → Bool
  | calendar (.yearTooWide _) => true
  | _ => false

structure CompiledQuery where
  text : String
  parameters : List Value
  intent : Intent
  candidates : List ColumnMatch

/-- Whether a query text says nothing. -/
def isEmptyText (text : String) : Bool :=
  Text.isBlankText text

/-- Writes a plan: the clauses that are not empty, with a space between them, and their values in
the order of the placeholders. -/
def Plan.render (p : Plan) : Except Unbalanced (String × List Value) := do
  let selection ← p.projection.fragment
  let filter ← filterFragment p.predicates
  let grouping ← groupFragment p.groupKey
  let ordering ← orderFragment p.greatestOnly
  let source ← p.source.fragment
  let parts := [selection, source, filter, grouping, ordering]
  let text :=
    String.intercalate " " ((parts.filter fun f => !f.isEmpty).map Fragment.text)
  return (numberMarkers text, parts.flatMap Fragment.parameters)

/-- A compiler with the schema that it compiles against. -/
structure Compiler where
  config : CompilerConfig
  mapper : Mapper

namespace Compiler

/-- A compiler without a published schema. -/
def new (config : CompilerConfig) : Compiler :=
  { config, mapper := { minScore := config.minSimilarity } }

def publish (c : Compiler) (schema : Schema) : Compiler :=
  { c with mapper := c.mapper.publish schema c.config.cacheCapacity }

/-- What a compiler understands of a question whose columns are ranked already. -/
def reading (config : CompilerConfig) (question : String) (candidates : List ColumnMatch)
    (now : Instant) : Except CompileError Reading :=
  match Question.span? question now config.referenceYear with
  | .error reason => .error (.calendar reason)
  | .ok span =>
      .ok
        {
          question,
          intent := Intent.ofQuestion question,
          tokens := Question.tokens question,
          candidates,
          span,
          conventions := config.conventions
        }

/-- Compiles a reading. -/
def ofReading (r : Reading) : Except CompileError CompiledQuery :=
  match r.plan.render with
  | .error reason => .error (.unbalanced reason)
  | .ok (text, parameters) =>
      .ok { text, parameters, intent := r.intent, candidates := r.candidates }

/-- Compiles a question as of some instant. The ranking made on the way stays in the cache. -/
def compile (c : Compiler) (question : String) (now : Instant)
    : Except CompileError CompiledQuery × Compiler :=
  let (candidates, mapper) := c.mapper.rank (Question.tokens question)
  let result := (reading c.config question candidates now).bind ofReading
  (result, { c with mapper })

end Compiler

end RideQuestions.Query
