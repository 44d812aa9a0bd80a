import RideQuestions.Proofs.Service.Books
import RideQuestions.Proofs.Service.Standing

/-! Contacts of the service with the provider and the store. Collaborators that write every contact
down show what each part of a call does outside: loading asks for the schema once, and answering
executes a query only if the guard has approved it.
-/

namespace RideQuestions

open Calendar Query

variable {W : Type}

/-- One contact with the world outside, and what came of it. -/
inductive Contact where
  /-- The provider was asked for the schema. -/
  | schema (outcome : Except Fault (Option Schema))
  /-- The store executed a query. -/
  | query (text : String) (parameters : List Value) (outcome : Except Fault (List Row))

/-- Whether a contact executed a query. -/
def Contact.isQuery : Contact → Bool
  | schema _ => false
  | query _ _ _ => true

/-- What the provider gave, if a contact asked it. -/
def Contact.supply? : Contact → Option (Except Fault (Option Schema))
  | schema outcome => some outcome
  | query _ _ _ => none

/-- Collaborators that do the same and write every contact down. -/
def Collaborators.recorded (c : Collaborators W) : Collaborators (W × List Contact) where
  load := fun metrics (world, log) =>
    let (outcome, metrics, world) := c.load metrics world
    (outcome, metrics, world, log ++ [.schema outcome])
  execute := fun text parameters metrics (world, log) =>
    let (outcome, metrics, world) := c.execute text parameters metrics world
    (outcome, metrics, world, log ++ [.query text parameters outcome])
  inspect := c.inspect

/-- A provider with one thing to give, a store where nothing is found, and the guard that a service
has unless it is given another. -/
def Collaborators.giving (outcome : Except Fault (Option Schema)) : Collaborators Unit where
  load := fun metrics world => (outcome, metrics, world)
  execute := fun _ _ metrics world => (.ok [], metrics, world)
  inspect := Service.guard

theorem Collaborators.giving_discreet (outcome : Except Fault (Option Schema))
    : (giving outcome).Discreet :=
  ⟨fun _ _ => rfl, fun _ _ _ _ => rfl⟩

namespace Scene

/-- The contacts written down so far. -/
def log (s : Scene (W × List Contact)) : List Contact :=
  s.world.2

/-- One scene follows another with some more contacts, and with some more entries in the books as
long as only the service enters anything there. -/
structure Account (c : Collaborators W) (before after : Scene (W × List Contact))
    (contacts : List Contact) (entries : Metrics.Entries) : Prop where
  contacts : after.log = before.log ++ contacts
  entries : c.Discreet → before.metrics.Adds after.metrics entries

variable {c : Collaborators W} {s s' s'' : Scene (W × List Contact)}
variable {contacts more : List Contact} {entries others : Metrics.Entries}

/-- Contacts and entries are added up on the way. -/
theorem Account.trans (h : s.Account c s' contacts entries) (next : s'.Account c s'' more others)
    : s.Account c s'' (contacts ++ more) (entries + others) where
  contacts := by rw [next.contacts, h.contacts, List.append_assoc]
  entries := fun discreet => (h.entries discreet).trans (next.entries discreet)

/-- What keeps the log is no contact. -/
theorem account_of_log (log : s'.log = s.log) (added : s.metrics.Adds s'.metrics entries)
    : s.Account c s' [] entries :=
  ⟨log.trans (List.append_nil _).symm, fun _ => added⟩

theorem Account.refl (c : Collaborators W) (s : Scene (W × List Contact))
    : s.Account c s [] {} :=
  account_of_log rfl (Metrics.adds_of_select rfl)

theorem account_fail (fault : Fault) (s : Scene (W × List Contact))
    : s.Account c (s.fail fault).2 [] { outcomes := 1 } :=
  account_of_log rfl (s.metrics.adds_outcome (Metrics.isOutcome_failureCounter fault))

-----------------------------------------------------------------------------------------
-- Loading
-----------------------------------------------------------------------------------------

/-- Asking for the schema is one contact and leaves the service as it is. -/
theorem account_askSchema (c : Collaborators W) (s : Scene (W × List Contact))
    : s.Account c (s.askSchema c.recorded).2 [.schema (s.askSchema c.recorded).1] {}
      ∧ (s.askSchema c.recorded).2.service = s.service :=
  ⟨⟨rfl, fun discreet => Metrics.adds_of_select (discreet.load s.metrics s.world.1)⟩, rfl⟩

/-- Taking what the provider has given is no contact; a usable schema is entered in the books. -/
theorem account_accept (outcome : Except Fault (Option Schema)) (s : Scene (W × List Contact))
    : s.Account c (s.accept outcome).2 []
        { loads := if (usable? outcome).isSome then 1 else 0 } := by
  cases given : usable? outcome with
  | none =>
      obtain ⟨_, _, _, same⟩ := accept_of_unusable (s := s) given
      rw [same]
      exact .refl c s
  | some schema =>
      rw [accept_of_usable given]
      exact account_of_log rfl (Metrics.adds_load s.metrics)

-----------------------------------------------------------------------------------------
-- Answering
-----------------------------------------------------------------------------------------

theorem account_compile (question : String) (now : Instant) (s : Scene (W × List Contact))
    : s.Account c (s.compile question now).2 [] {} := by
  obtain ⟨_, _, world, metrics⟩ := compile_spec question now s
  refine account_of_log (congrArg Prod.snd world) (Metrics.adds_of_select ?_)
  rw [metrics]
  exact Metrics.select_track_of_not (by decide) (by decide)

/-- Executing a query is one contact. -/
theorem account_execute (c : Collaborators W) (query : CompiledQuery)
    (s : Scene (W × List Contact))
    : s.Account c (s.execute c.recorded query).2
        [.query query.text query.parameters (s.execute c.recorded query).1] {} :=
  ⟨rfl, fun discreet => Metrics.adds_of_select
    (discreet.execute query.text query.parameters
      (s.metrics.withTimer "query_service.execution") s.world.1)⟩

/-- The ways in which answering a question goes on once the schema is loaded, by what compiling
the question gave: the contacts, and what is returned. -/
inductive Responded (c : Collaborators W) (compiled : Except CompileError CompiledQuery)
    : List Contact → Except NumberError Response → Prop where
  | uncompiled (error : CompileError) (h : compiled = .error error)
      : Responded c compiled [] (.ok (.failure (compileFault error).text))
  | unapproved (query : CompiledQuery) (fault : Fault) (h : compiled = .ok query)
      (refused : approve c query = .error fault)
      : Responded c compiled [] (.ok (.failure fault.text))
  | unexecuted (query : CompiledQuery) (fault : Fault) (h : compiled = .ok query)
      (approved : approve c query = .ok ())
      : Responded c compiled [.query query.text query.parameters (.error fault)]
          (.ok (.failure fault.text))
  | executed (query : CompiledQuery) (rows : List Row) (h : compiled = .ok query)
      (approved : approve c query = .ok ())
      : Responded c compiled [.query query.text query.parameters (.ok rows)]
          ((Answer.ofRows rows query.intent).map fun result => { query := query.text, result })

/-- Answering does not ask for a schema. -/
theorem Responded.supplies_eq_nil {compiled : Except CompileError CompiledQuery}
    {result : Except NumberError Response} (h : Responded c compiled contacts result)
    : contacts.filterMap Contact.supply? = [] := by
  cases h <;> rfl

/-- Answering goes on in one of its ways, and is entered in the books once. -/
theorem respond_responded (c : Collaborators W) (question : String) (now : Instant)
    (s : Scene (W × List Contact))
    : ∃ contacts,
        Responded c (s.service.compiler.compile question now).1 contacts
          (s.respond c.recorded question now).1
        ∧ s.Account c (s.respond c.recorded question now).2 contacts { outcomes := 1 } := by
  have given := s.prepare_fst (c := c.recorded) question now
  have compiled : s.Account c (s.prepare c.recorded question now).2 [] {} := by
    rw [prepare_snd]
    exact s.account_compile question now
  rw [respond]
  generalize s.prepare c.recorded question now = prepared at given compiled
  generalize (s.service.compiler.compile question now).1 = made at given
  obtain ⟨prepared, s₁⟩ := prepared
  cases made with
  | error error =>
      obtain rfl : prepared = .error (compileFault error) := given
      exact ⟨_, .uncompiled error rfl, compiled.trans (s₁.account_fail _)⟩
  | ok query =>
      change prepared = (approve c query).map fun _ => query at given
      cases approved : approve c query with
      | error fault =>
          rw [approved] at given
          obtain rfl : prepared = .error fault := given
          exact ⟨_, .unapproved query fault rfl approved, compiled.trans (s₁.account_fail fault)⟩
      | ok _ =>
          rw [approved] at given
          obtain rfl : prepared = .ok query := given
          have executed := compiled.trans (account_execute c query s₁)
          dsimp only
          generalize s₁.execute c.recorded query = done at executed
          obtain ⟨rows, s₂⟩ := done
          cases rows with
          | error fault =>
              exact ⟨_, .unexecuted query fault rfl approved,
                executed.trans (s₂.account_fail fault)⟩
          | ok rows =>
              have answered : s₂.Account c (s₂.count "query_service.answered") []
                  { outcomes := 1 } :=
                account_of_log rfl (s₂.metrics.adds_outcome (by decide))
              exact ⟨_, .executed query rows rfl approved, executed.trans answered⟩

end Scene

end RideQuestions
