import RideQuestions.Service.Service

/-! Several calls at a time. A call that needs the schema takes the loading lock; whoever holds it
asks the provider, and all others wait in the order of their arrival. A call is suspended only
while it waits for the lock or for the provider, and runs on without a break in between.
-/

namespace RideQuestions

open Calendar

/-- A call of the service. -/
inductive Call where
  /-- Loads the schema unless that was done before. -/
  | ensure
  /-- Loads the schema anew. -/
  | reload
  | ask (question : Option String) (now : Instant)

/-- How a call has ended. -/
inductive Reply where
  | done
  | refused (error : ServiceError)
  | answered (outcome : Except NumberError Response)

/-- A call under way, by its number. -/
structure Caller where
  number : Nat
  call : Call

/-- A caller that waits for the provider, and what the provider will give. -/
structure Loading where
  caller : Caller
  outcome : Except Fault (Option Schema)

/-- Calls under way on one service. The lock is held exactly while the schema is being loaded. -/
structure Traffic (W : Type) where
  scene : Scene W
  loading : Option Loading := none
  waiting : List Caller := []
  replies : List (Nat × Reply) := []

namespace Traffic

variable {W : Type}

def reply (caller : Caller) (reply : Reply) (t : Traffic W) : Traffic W :=
  { t with replies := t.replies ++ [(caller.number, reply)] }

/-- Ends a call for which the schema is loaded. -/
def proceed (c : Collaborators W) (caller : Caller) (t : Traffic W) : Traffic W :=
  match caller.call with
  | .ensure => t.reply caller .done
  | .reload => t.reply caller .done
  | .ask question now =>
      let (outcome, scene) := t.scene.respond c (question.getD "") now
      { t with scene }.reply caller (.answered outcome)

/-- Ends a call whose schema could not be loaded. -/
def giveUp (error : ServiceError) (caller : Caller) (t : Traffic W) : Traffic W :=
  match caller.call with
  | .ensure => t.reply caller (.refused error)
  | .reload => t.reply caller (.refused error)
  | .ask _ _ =>
      let (response, scene) := t.scene.fail (.service error)
      { t with scene }.reply caller (.answered (.ok response))

/-- Takes the lock and asks the provider. -/
def startLoading (c : Collaborators W) (caller : Caller) (t : Traffic W) : Traffic W :=
  let (outcome, scene) := t.scene.askSchema c
  { t with scene, loading := some { caller, outcome } }

/-- Whether a call is content with the schema that is loaded already. -/
def content (t : Traffic W) (caller : Caller) : Bool :=
  match caller.call with
  | .reload => false
  | _ => t.scene.service.loaded

/-- Lets a call that has the lock run on. -/
def withLock (c : Collaborators W) (caller : Caller) (t : Traffic W) : Traffic W :=
  if t.content caller then t.proceed c caller else t.startLoading c caller

/-- Takes the lock if it is free and nobody waits for it, and waits otherwise. -/
def enter (c : Collaborators W) (caller : Caller) (t : Traffic W) : Traffic W :=
  if t.content caller then t.proceed c caller
  else if t.loading.isNone && t.waiting.isEmpty then t.startLoading c caller
  else { t with waiting := t.waiting ++ [caller] }

/-- A new call arrives and runs up to its first suspension. -/
def arrive (c : Collaborators W) (caller : Caller) (t : Traffic W) : Traffic W :=
  match caller.call with
  | .ask question _ =>
      let t := { t with scene := t.scene.count "query_service.questions" }
      match Scene.askable question with
      | .error error => t.giveUp error caller
      | .ok _ => t.enter c caller
  | _ => t.enter c caller

/-- The provider answers: the lock is released and the call that held it runs to its end. -/
def deliver (c : Collaborators W) (t : Traffic W) : Traffic W :=
  match t.loading with
  | none => t
  | some { caller, outcome } =>
      let (result, scene) := t.scene.accept outcome
      let t := { t with scene, loading := none }
      match result with
      | .ok () => t.proceed c caller
      | .error error => t.giveUp error caller

/-- The call that has waited for longest takes the free lock. -/
def wake (c : Collaborators W) (t : Traffic W) : Traffic W :=
  match t.loading, t.waiting with
  | none, caller :: rest => { t with waiting := rest }.withLock c caller
  | _, _ => t

/-- Something that can happen next. -/
inductive Event where
  | arrival (caller : Caller)
  | delivery
  | wakening

/-- What happens to the calls under way. -/
def step (c : Collaborators W) (t : Traffic W) : Event → Traffic W
  | .arrival caller => t.arrive c caller
  | .delivery => t.deliver c
  | .wakening => t.wake c

/-- The suspensions still to come, at most. -/
def pending (t : Traffic W) : Nat :=
  2 * t.waiting.length + (if t.loading.isSome then 1 else 0)

/-- Lets the calls run on, at most `steps` suspensions far. -/
def settle (c : Collaborators W) : Nat → Traffic W → Traffic W
  | 0, t => t
  | steps + 1, t =>
      if t.loading.isSome then settle c steps (t.deliver c)
      else if t.waiting.isEmpty then t
      else settle c steps (t.wake c)

/-- Several calls arrive in turn before any of them is let on, and all run to their end. -/
def run (c : Collaborators W) (calls : List Call) (scene : Scene W) : List Reply × Scene W :=
  let callers := calls.zipIdx.map fun (call, number) => Caller.mk number call
  let arrived := callers.foldl (fun t caller => t.arrive c caller) ({ scene } : Traffic W)
  let t := settle c arrived.pending arrived
  (callers.filterMap fun caller => t.replies.lookup caller.number, t.scene)

end Traffic

end RideQuestions
