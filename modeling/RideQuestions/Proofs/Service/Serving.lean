import RideQuestions.Proofs.Query.Accepted
import RideQuestions.Proofs.Service.Answering

/-! A new service over a schema with plain names. Neither the compiler nor the guard comes between a
question and the store: what the store gives for the query is what the question ends with.
-/

namespace RideQuestions

open Calendar Query

variable {W : Type} {c : Collaborators W}

namespace Scene

/-- How a question ends with an approved query, by what the store gives for it. -/
def ending (query : CompiledQuery) : Except Fault (List Row) → Except NumberError Response
  | .error fault => .ok (.failure fault.text)
  | .ok rows =>
      (Answer.ofRows rows query.intent).map fun result => { query := query.text, result }

/-- A query that is compiled and approved is executed. -/
theorem respond_of_approved {s : Scene W} {question : String} {now : Instant}
    {query : CompiledQuery} {outcome : Except Fault (List Row)}
    (compiled : (s.service.compiler.compile question now).1 = .ok query)
    (approved : approve c query = .ok ())
    (executes : ∀ metrics world, (c.execute query.text query.parameters metrics world).1 = outcome)
    : (s.respond c question now).1 = ending query outcome := by
  have given := s.prepare_fst (c := c) question now
  rw [compiled] at given
  dsimp only at given
  rw [approved] at given
  rw [respond]
  generalize s.prepare c question now = prepared at given
  obtain ⟨result, s₁⟩ := prepared
  obtain rfl : result = .ok query := given
  have executed : (s₁.execute c query).1 = outcome := executes _ s₁.world
  dsimp only
  generalize s₁.execute c query = done at executed
  obtain ⟨rows, s₂⟩ := done
  obtain rfl : rows = outcome := executed
  cases rows <;> rfl

end Scene

/-- A provider of one schema, a store with one outcome for every query, and the guard that a service
has unless it is given another. -/
def Collaborators.serving (schema : Schema) (outcome : Except Fault (List Row))
    : Collaborators Unit where
  load := fun metrics world => (.ok (some schema), metrics, world)
  execute := fun _ _ metrics world => (outcome, metrics, world)
  inspect := Service.guard

/-- The guard that a service has approves every query compiled from plain names. -/
theorem Scene.approve_compiled {config : CompilerConfig} {calls : List Query.Call}
    {question : String} {now : Instant} {query : CompiledQuery}
    (guarded : c.inspect = Service.guard)
    (compiled : (((Compiler.new config).after calls).compile question now).1 = .ok query)
    (named : ∀ name ∈ vocabulary (latestSchema calls) config.conventions,
      Sql.isPlainName name.toList = true)
    (allowed : ∀ table ∈ config.conventions.tables ++ (latestSchema calls).tableNames,
      Sql.isForbidden table.toList = false)
    : approve c query = .ok () := by
  have inspected := Compiler.inspect_compiled .pairs named allowed compiled
  have said : isEmptyText query.text = false := by
    by_contra blank
    rw [Bool.not_eq_false] at blank
    rw [Sql.inspect, if_pos (show Text.isBlankText query.text = true from blank)] at inspected
    exact absurd (Except.ok.inj inspected) (by simp)
  rw [approve, said, if_neg Bool.false_ne_true, guarded, Service.guard, inspected]
  rfl

/-- On a new service over a schema with plain names, a question with a date that there is ends with
what the store gives for its query. -/
theorem Scene.answer_serving (config : CompilerConfig) (schema : Schema) (question : String)
    (now : Instant) (outcome : Except Fault (List Row))
    (said : Text.isBlankText question = false) (columns : schema.columns ≠ [])
    (named : ∀ name ∈ vocabulary schema config.conventions, Sql.isPlainName name.toList = true)
    (allowed : ∀ table ∈ config.conventions.tables ++ schema.tableNames,
      Sql.isForbidden table.toList = false)
    (dated : ∃ span, Question.span? question now config.referenceYear = .ok span)
    : ∃ query : CompiledQuery, query.intent = Intent.ofQuestion question
      ∧ (answer (.serving schema outcome) (some question) now
          { service := .new config, world := () }).1
        = ending query outcome := by
  have unmarked : ∀ name ∈ vocabulary schema config.conventions, marker ∉ name.toList :=
    fun name member inside =>
      absurd (Sql.mem_plain_of_isPlainName (named name member) _ inside).2 (by decide)
  obtain ⟨query, compiled⟩ :=
    (Compiler.exists_compiled_iff config [.publish schema] question now unmarked).mpr dated
  have approved : approve (.serving schema outcome) query = .ok () :=
    approve_compiled rfl compiled named allowed
  refine ⟨query, Compiler.compile_intent compiled, ?_⟩
  have usable : usable? (.ok (some schema)) = some schema := usable?_eq_some_iff.mpr ⟨rfl, columns⟩
  rw [answer, askable_eq_ok_iff.mpr ⟨rfl, said⟩]
  generalize counted : count { service := .new config, world := () } "query_service.questions" = s₀
  have new : s₀.service = .new config := by rw [← counted]; rfl
  dsimp only
  rw [ensureLoaded, new, if_neg (show ¬ (Service.new config).loaded = true from Bool.false_ne_true),
    reload]
  dsimp only [askSchema, Collaborators.serving]
  rw [accept_of_usable usable, new]
  exact respond_of_approved compiled approved fun _ _ => rfl

/-- The schema of rides is one that a service answers on, with the conventions it has unless it is
given others. -/
theorem Query.Compiler.rideSchema_plain
    : (∀ name ∈ vocabulary Compiler.rideSchema {}, Sql.isPlainName name.toList = true)
      ∧ ∀ table ∈ ({} : Conventions).tables ++ Compiler.rideSchema.tableNames,
          Sql.isForbidden table.toList = false :=
  ⟨by decide +kernel, by decide +kernel⟩

end RideQuestions
