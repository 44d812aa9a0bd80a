import RideQuestions.Proofs.Service.Ending
import RideQuestions.Proofs.Value.Writing
import RideQuestions.Server.Endpoint

/-! The status of a reply. A body without a question is refused before the service sees it. Rows of
an executed query are a success, and a failure is an error of the server if it says anything.
-/

namespace RideQuestions

open Calendar Query

variable {W : Type}

-----------------------------------------------------------------------------------------
-- Answers and errors in the books
-----------------------------------------------------------------------------------------

namespace Metrics

/-- Whether a name is one under which failures are counted. -/
def isError (name : String) : Bool :=
  "query_service.errors.".toList.isPrefixOf name.toList

/-- One set of metrics follows another with some more answers and some more failures. -/
structure Closes (before after : Metrics) (answers errors : Nat) : Prop where
  answers : after.counter "query_service.answered"
    = before.counter "query_service.answered" + answers
  errors : after.total isError = before.total isError + errors

variable {before between : Metrics}

end Metrics

-----------------------------------------------------------------------------------------
-- Bodies
-----------------------------------------------------------------------------------------

namespace Endpoint

variable {room : Room} {bytes : List UInt8} {text : String}

/-- The ways in which a question is replied to: the contacts on the way, and how many answers and
failures enter the books. -/
inductive Replies (c : Collaborators W) (compiler : Compiler) (text : String) (now : Instant)
    (room : Nat) (contacts : List Contact) : Nat → Nat → Except NumberError Reply → Prop where
  /-- Something went wrong before there were rows. -/
  | failed (fault : Fault) (unfulfilled : contacts.filterMap Contact.fulfilled? = [])
      : Replies c compiler text now room contacts 0 1
          (.ok ⟨if fault.text.isEmpty then 200 else 500, .failure fault.text⟩)
  | answered (query : CompiledQuery) (rows : List Row) (value : Value)
      (rowed : Scene.Fulfilled c compiler text now contacts query rows)
      (collapsed : Answer.ofRows rows (Intent.ofQuestion text) = .ok value)
      (writable : value.Writable room)
      : Replies c compiler text now room contacts 1 0
          (.ok ⟨200, { query := query.text, result := sent value }⟩)
  /-- There were rows, and what they were collapsed to could not be sent. -/
  | unsent (query : CompiledQuery) (rows : List Row) (value : Value)
      (rowed : Scene.Fulfilled c compiler text now contacts query rows)
      (collapsed : Answer.ofRows rows (Intent.ofQuestion text) = .ok value)
      (unwritable : ¬ value.Writable room)
      : Replies c compiler text now room contacts 1 0
          (.error (if room < value.depth then .tooNested else .unwritable))
  /-- There were rows that could not be collapsed. -/
  | stuck (query : CompiledQuery) (rows : List Row) (reason : NumberError)
      (rowed : Scene.Fulfilled c compiler text now contacts query rows)
      (uncollapsed : Answer.ofRows rows (Intent.ofQuestion text) = .error reason)
      : Replies c compiler text now room contacts 1 0 (.error reason)

/-- The status of a reply to a question tells an answer from a failure, unless the failure says
nothing. -/
theorem Replies.status {c : Collaborators W} {compiler : Compiler} {now : Instant} {room : Nat}
    {contacts : List Contact} {answers errors : Nat} {reply : Reply}
    (h : Replies c compiler text now room contacts answers errors (.ok reply))
    : (reply.status = 200 ↔ answers = 1 ∨ reply.response.error = some "")
      ∧ (reply.status = 500 ↔ errors = 1 ∧ reply.response.error ≠ some "")
      ∧ reply.status ≠ 400 := by
  generalize returned : Except.ok reply = result at h
  cases h with
  | failed fault _ =>
      obtain rfl := Except.ok.inj returned
      by_cases silent : fault.text = ""
      · simp [Response.failure, silent]
      · simp [Response.failure, silent]
  | answered query rows value _ _ _ =>
      obtain rfl := Except.ok.inj returned
      simp
  | unsent query rows value _ _ _ => exact absurd returned (by simp)
  | stuck query rows reason _ _ => exact absurd returned (by simp)

end Endpoint

end RideQuestions
