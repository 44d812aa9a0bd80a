import RideQuestions.Service.Service

/-! A service over two worlds. Collaborators that do the same on worlds that are alike, and leave
them alike, make every part of a call end in the same way and leave scenes that are alike.
-/

namespace RideQuestions

open Calendar Query

variable {V W α : Type} {R : V → W → Prop}

/-- Two results that come with metrics and worlds differ in nothing but the worlds, which are
alike. -/
structure SameIn (R : V → W → Prop) (x : α × Metrics × V) (y : α × Metrics × W) : Prop where
  result : x.1 = y.1
  metrics : x.2.1 = y.2.1
  world : R x.2.2 y.2.2

/-- Two groups of collaborators do the same on worlds that are alike. -/
structure Collaborators.Agree (R : V → W → Prop) (c : Collaborators V) (d : Collaborators W)
    : Prop where
  load : ∀ metrics {v w}, R v w → SameIn R (c.load metrics v) (d.load metrics w)
  execute : ∀ text parameters metrics {v w}, R v w →
    SameIn R (c.execute text parameters metrics v) (d.execute text parameters metrics w)
  inspect : c.inspect = d.inspect

namespace Scene

/-- Two scenes differ in nothing but their worlds, which are alike. -/
structure Alike (R : V → W → Prop) (s : Scene V) (t : Scene W) : Prop where
  service : s.service = t.service
  metrics : s.metrics = t.metrics
  world : R s.world t.world

/-- Two parts of a call end in the same way and leave scenes that are alike. -/
structure EndAlike (R : V → W → Prop) (x : α × Scene V) (y : α × Scene W) : Prop where
  result : x.1 = y.1
  scene : x.2.Alike R y.2

variable {c : Collaborators V} {d : Collaborators W} {s : Scene V} {t : Scene W}

theorem Alike.count (h : s.Alike R t) (name : String)
    : (s.count name).Alike R (t.count name) :=
  ⟨h.service, congrArg (·.count name 1) h.metrics, h.world⟩

theorem Alike.fail (h : s.Alike R t) (fault : Fault)
    : EndAlike R (s.fail fault) (t.fail fault) :=
  ⟨rfl, h.count _⟩

theorem Alike.accept (h : s.Alike R t) (outcome : Except Fault (Option Schema))
    : EndAlike R (s.accept outcome) (t.accept outcome) := by
  unfold Scene.accept
  split
  · exact ⟨rfl, h⟩
  · next schema _ =>
      have published : Alike R
          { s with service := ⟨s.service.compiler.publish schema, true⟩ }
          { t with service := ⟨t.service.compiler.publish schema, true⟩ } :=
        ⟨by rw [h.service], h.metrics, h.world⟩
      exact ⟨rfl, published.count _⟩

theorem Alike.askSchema (h : s.Alike R t) (agree : c.Agree R d)
    : EndAlike R (s.askSchema c) (t.askSchema d) := by
  have asked := agree.load s.metrics h.world
  unfold Scene.askSchema
  rw [← h.metrics]
  exact ⟨asked.result, h.service, asked.metrics, asked.world⟩

/-- Loading ends in the same way, since the provider gives the same. -/
theorem Alike.reload (h : s.Alike R t) (agree : c.Agree R d)
    : EndAlike R (s.reload c) (t.reload d) := by
  have asked := h.askSchema agree
  unfold Scene.reload
  dsimp only
  rw [asked.result]
  exact asked.scene.accept _

theorem Alike.ensureLoaded (h : s.Alike R t) (agree : c.Agree R d)
    : EndAlike R (s.ensureLoaded c) (t.ensureLoaded d) := by
  unfold Scene.ensureLoaded
  rw [h.service]
  split
  · exact ⟨rfl, h⟩
  · exact h.reload agree

/-- Preparing a query contacts nobody, and the guard is the same. -/
theorem Alike.prepare (h : s.Alike R t) (agree : c.Agree R d) (question : String) (now : Instant)
    : EndAlike R (s.prepare c question now) (t.prepare d question now) := by
  obtain ⟨service, metrics, v⟩ := s
  obtain ⟨_, _, w⟩ := t
  obtain ⟨rfl, rfl, world⟩ := h
  have approved (query : CompiledQuery) : approve c query = approve d query := by
    rw [approve, approve, agree.inspect]
  unfold Scene.prepare compile
  generalize service.compiler.compile question now = made
  obtain ⟨result, compiler⟩ := made
  dsimp only [Metrics.track]
  cases result with
  | error error => exact ⟨rfl, rfl, rfl, world⟩
  | ok query => exact ⟨congrArg (·.map fun _ => query) (approved query), rfl, rfl, world⟩

theorem Alike.execute (h : s.Alike R t) (agree : c.Agree R d) (query : CompiledQuery)
    : EndAlike R (s.execute c query) (t.execute d query) := by
  have executed := agree.execute query.text query.parameters
    (s.metrics.withTimer "query_service.execution") h.world
  unfold Scene.execute
  rw [← h.metrics]
  exact ⟨executed.result, h.service, congrArg (Metrics.clocked · _) executed.metrics,
    executed.world⟩

/-- Answering once the schema is loaded ends in the same way, by what preparing and executing the
query gave. -/
theorem Alike.respond (h : s.Alike R t) (agree : c.Agree R d) (question : String) (now : Instant)
    : EndAlike R (s.respond c question now) (t.respond d question now) := by
  have prepared := h.prepare agree question now
  unfold Scene.respond
  generalize s.prepare c question now = left at prepared
  generalize t.prepare d question now = right at prepared
  obtain ⟨result, s₁⟩ := left
  obtain ⟨_, t₁⟩ := right
  obtain ⟨rfl, scenes⟩ := prepared
  cases result with
  | error fault => exact ⟨rfl, (scenes.fail fault).scene⟩
  | ok query =>
      have executed := Alike.execute scenes agree query
      dsimp only
      generalize s₁.execute c query = left at executed
      generalize t₁.execute d query = right at executed
      obtain ⟨result, s₂⟩ := left
      obtain ⟨_, t₂⟩ := right
      obtain ⟨rfl, scenes⟩ := executed
      cases result with
      | error fault => exact ⟨rfl, (scenes.fail fault).scene⟩
      | ok rows => exact ⟨rfl, scenes.count _⟩

/-- Answering a question ends in the same way, by its steps. -/
theorem Alike.answer (h : s.Alike R t) (agree : c.Agree R d) (question : Option String)
    (now : Instant)
    : EndAlike R (s.answer c question now) (t.answer d question now) := by
  have counted := h.count "query_service.questions"
  unfold Scene.answer
  cases askable question with
  | error error => exact ⟨rfl, (counted.fail (.service error)).scene⟩
  | ok asked =>
      have loaded := counted.ensureLoaded agree
      dsimp only
      generalize (s.count "query_service.questions").ensureLoaded c = left at loaded
      generalize (t.count "query_service.questions").ensureLoaded d = right at loaded
      obtain ⟨result, s₁⟩ := left
      obtain ⟨_, t₁⟩ := right
      obtain ⟨rfl, scenes⟩ := loaded
      cases result with
      | error error => exact ⟨rfl, (scenes.fail (.service error)).scene⟩
      | ok _ => exact scenes.respond agree asked now

end Scene

end RideQuestions
