import Settle.Deployment
import Settle.Lifecycle
import Settle.Object

/-!
# Handles

A handle operates on one object and keeps what it has learned of the object's lifecycle. Operations
that teach it something give the handle back as it is afterwards.
-/

namespace Settle

inductive PatchKind where
  | merge | json | strategic
  deriving DecidableEq, Repr

def PatchKind.word : PatchKind → String
  | .merge => "merge"
  | .json => "json"
  | .strategic => "strategic"

structure Handle where
  client : Client
  object : ObjectRef
  lifecycle : Lifecycle := .unknown
  deriving DecidableEq, Repr

namespace Handle

variable {σ α : Type}

def note (h : Handle) (e : LifecycleEvent) : Handle :=
  { h with lifecycle := h.lifecycle.advance e }

/-- The handle after a wait that, when it succeeds, amounts to an event. -/
def noteWait (h : Handle) (outcome : Outcome α) (success : LifecycleEvent) : Handle :=
  h.note (if outcome.isSuccess then success else .waitFailed)

variable [Cluster σ]

def issue (h : Handle) (i : Invocation) : Action σ (Except Error String) := do
  return ObjectRef.answer h.object.target (← Action.issue i)

def existsIn (o : ObjectRef) : Except CommandFailure String → Except Error Bool
  | .ok name => .ok !name.isEmpty
  | .error f => if f.kind = .notFound then .ok false else .error (.ofCommand f o.target)

def isPresent (h : Handle) : Action σ (Except Error Bool) := do
  return existsIn h.object (← Action.issue (h.object.nameQuery h.client))

def awaitPresence (h : Handle) (policy : Policy) : Action σ (Outcome Unit × Handle) := do
  let outcome ← h.client.await (h.object.presence h.client) policy
  return (outcome, h.noteWait outcome .appeared)

def awaitAbsence (h : Handle) (policy : Policy) : Action σ (Outcome Unit × Handle) := do
  let outcome ← h.client.await (h.object.absence h.client) policy
  return (outcome, h.noteWait outcome .vanished)

/-- What an answer to a deletion says, and what the handle learns from it. An object that is not
there, or whose kind is not known, counts as deleted. -/
def deletion (h : Handle) : Except CommandFailure String → Except Error Unit × Handle
  | .ok _ => (.ok (), h.note .deleteIssued)
  | .error f =>
    match f.kind with
    | .notFound | .unknownKind => (.ok (), h.note .vanished)
    | .transient | .rejected | .other => (.error (.ofCommand f h.object.target), h)

def deleteCommand (h : Handle) : Invocation :=
  h.client.command .delete h.object.scope [h.object.kind, h.object.name]

def delete (h : Handle) : Action σ (Except Error Unit × Handle) := do
  return h.deletion (← Action.issue h.deleteCommand)

def clear (h : Handle) (policy : Policy) : Action σ (Except Error Unit × Handle) := do
  match ← h.delete with
  | (.error e, h) => return (.error e, h)
  | (.ok (), h) =>
    let (outcome, h') ← h.awaitAbsence policy
    return (outcome.toResult (h.object.absence h.client).goal, h')

def read (h : Handle) (p : Projection) : Action σ (Except Error String) := do
  return h.object.projected p (← Action.issue (h.object.projectionQuery h.client p))

def logs (h : Handle) (container : Option String) : Action σ (Except Error String) :=
  h.issue (h.object.logsQuery h.client container)

def awaitField (h : Handle) (p : Projection) (expected : FieldExpectation) (policy : Policy) :
    Action σ (Outcome String) :=
  h.client.await (h.object.field h.client p expected) policy

def awaitReady (h : Handle) (expected : Nat) (policy : Policy) : Action σ (Outcome Nat) :=
  h.client.await (h.object.ready h.client expected) policy

/-- Waits until the rollout of a workload is complete; other kinds have none. -/
def awaitRollout (h : Handle) (policy : Policy) : Action σ (Outcome Nat) :=
  match Workload.ofKind? h.object.kind with
  | some w => h.client.await (h.object.rollout h.client w) policy
  | none => return .fatal (.noRolloutStatus h.object.kind)

def awaitLogLine (h : Handle) (regex : Regex) (container : Option String) (policy : Policy) :
    Action σ (Outcome String) :=
  h.client.await (h.object.logLine h.client regex container) policy

def patchCommand (h : Handle) (kind : PatchKind) (body : Json.Value) : Invocation :=
  h.client.command .patch h.object.scope
    [h.object.kind, h.object.name, "--type", kind.word, "-p", body.compact]

def patch (h : Handle) (kind : PatchKind) (body : Json.Value) : Action σ (Except Error Unit) := do
  return (← h.issue (h.patchCommand kind body)).map fun _ => ()

def scaleCommand (h : Handle) (replicas : Nat) : Invocation :=
  h.client.command .scale h.object.scope
    [h.object.target, "--replicas=" ++ toString replicas]

def scale (h : Handle) (replicas : Nat) : Action σ (Except Error Unit) := do
  return (← h.issue (h.scaleCommand replicas)).map fun _ => ()

def applyTemplate (h : Handle) (e : Engine) (t : Template) (retry : Policy) :
    Action σ (Except Error Manifest × Handle) := do
  match ← h.client.applyTemplate e t retry with
  | .ok m => return (.ok m, h.note .submitted)
  | .error cause => return (.error cause, h)

/-- Deploys the template that defines the object and waits until the object is there. -/
def applyTemplateAndAwait (h : Handle) (e : Engine) (t : Template) (retry presence : Policy) :
    Action σ (Except Error Manifest × Handle) := do
  match ← h.applyTemplate e t retry with
  | (.error cause, h) => return (.error cause, h)
  | (.ok m, h) =>
    let (outcome, h') ← h.awaitPresence presence
    let result := outcome.toResult (h.object.presence h.client).goal
    return (result.map fun _ => m, h')

end Handle

end Settle
