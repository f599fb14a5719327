import Settle.Handle
import Settle.Proofs.Action

/-!
# Operations on a handle

The operations that a handle offers as data, so that a session on one handle is a list of them.
Between two operations anything may happen to the world: time passes, other clients are at work, the
cancellation fires.
-/

namespace Settle.Handle

inductive Operation where
  | isPresent
  | awaitPresence (policy : Policy)
  | awaitAbsence (policy : Policy)
  | delete
  | clear (policy : Policy)
  | read (p : Projection)
  | logs (container : Option String)
  | awaitField (p : Projection) (expected : FieldExpectation) (policy : Policy)
  | awaitReady (expected : Nat) (policy : Policy)
  | awaitRollout (policy : Policy)
  | awaitLogLine (regex : Regex) (container : Option String) (policy : Policy)
  | patch (kind : PatchKind) (body : Json.Value)
  | scale (replicas : Nat)
  | applyTemplate (e : Engine) (t : Template) (retry : Policy)
  | applyTemplateAndAwait (e : Engine) (t : Template) (retry presence : Policy)

namespace Operation

abbrev Result : Operation → Type
  | isPresent => Except Error Bool
  | awaitPresence _ | awaitAbsence _ => Outcome Unit
  | delete | clear _ | patch _ _ | scale _ => Except Error Unit
  | read _ | logs _ => Except Error String
  | awaitField _ _ _ | awaitLogLine _ _ _ => Outcome String
  | awaitReady _ _ | awaitRollout _ => Outcome Nat
  | applyTemplate _ _ _ | applyTemplateAndAwait _ _ _ _ => Except Error Manifest

variable {σ : Type} [Cluster σ]

/-- Carries an operation out; the handle is given back as it is afterwards. -/
def run : (op : Operation) → Handle → Action σ (op.Result × Handle)
  | isPresent, h => return (← h.isPresent, h)
  | awaitPresence policy, h => h.awaitPresence policy
  | awaitAbsence policy, h => h.awaitAbsence policy
  | delete, h => h.delete
  | clear policy, h => h.clear policy
  | read p, h => return (← h.read p, h)
  | logs container, h => return (← h.logs container, h)
  | awaitField p expected policy, h => return (← h.awaitField p expected policy, h)
  | awaitReady expected policy, h => return (← h.awaitReady expected policy, h)
  | awaitRollout policy, h => return (← h.awaitRollout policy, h)
  | awaitLogLine regex container policy, h => return (← h.awaitLogLine regex container policy, h)
  | patch kind body, h => return (← h.patch kind body, h)
  | scale replicas, h => return (← h.scale replicas, h)
  | applyTemplate e t retry, h => h.applyTemplate e t retry
  | applyTemplateAndAwait e t retry presence, h => h.applyTemplateAndAwait e t retry presence

end Operation

/-- What happens in a session: an operation on the handle, or anything else. -/
inductive Step (σ : Type) where
  | operation (op : Operation)
  | meanwhile (change : World σ → World σ)

def session {σ : Type} [Cluster σ] : List (Step σ) → Handle → Action σ Handle
  | [], h => return h
  | .operation op :: rest, h => do session rest (← op.run h).2
  | .meanwhile change :: rest, h => do
    modify change
    session rest h

end Settle.Handle
