import Settle.Proofs.Handle.Operation
import Settle.ResourceSet

/-!
# Calls and sessions

A call is an operation on any client, handle or set of objects. In a session calls follow one
another; which one comes next may depend on what the calls so far gave, as when the handles of a
list are operated on.
-/

namespace Settle

inductive Client.Operation where
  | command (verb : Verb) (scope : Option String) (args : List String)
  | applyManifest (m : Manifest)
  | applyTemplate (e : Engine) (t : Template) (retry : Policy)
  | createFromTemplate (e : Engine) (t : Template) (retry : Policy)

inductive ResourceSet.Operation where
  | names (f : Filter)
  | list (f : Filter)
  | count (f : Filter)
  | awaitSize (f : Filter) (expected : CountExpectation) (policy : Policy)
  | awaitEmptiness (f : Filter) (policy : Policy)
  | awaitPodsReady (f : Filter) (policy : Policy)

namespace Client.Operation

abbrev Result : Operation → Type
  | command _ _ _ => Except CommandFailure String
  | applyManifest _ => Except Error Unit
  | applyTemplate _ _ _ | createFromTemplate _ _ _ => Except Error Manifest

def run {σ : Type} [Cluster σ] : (op : Operation) → Client → Action σ op.Result
  | command verb scope args, c => Action.issue (c.command verb scope args)
  | applyManifest m, c => c.applyManifest m
  | applyTemplate e t retry, c => c.applyTemplate e t retry
  | createFromTemplate e t retry, c => c.createFromTemplate e t retry

/-- Whether the operation goes at the pace of a policy, so that it heeds the cancellation. -/
def isPaced : Operation → Bool
  | applyTemplate _ _ _ | createFromTemplate _ _ _ => true
  | command _ _ _ | applyManifest _ => false

end Client.Operation

/-- Whether the operation goes at the pace of a policy from its start on, so that it heeds the
cancellation: it waits, or it submits a template. Clearing deletes first. -/
def Handle.Operation.isPaced : Operation → Bool
  | awaitPresence _ | awaitAbsence _ | awaitField _ _ _ | awaitReady _ _ | awaitRollout _
  | awaitLogLine _ _ _ | applyTemplate _ _ _ | applyTemplateAndAwait _ _ _ _ => true
  | isPresent | delete | clear _ | read _ | logs _ | patch _ _ | scale _ => false

namespace ResourceSet.Operation

abbrev Result : Operation → Type
  | names _ => Except Error (List String)
  | list _ => Except Error (List Handle)
  | count _ => Except Error Nat
  | awaitSize _ _ _ | awaitPodsReady _ _ => Outcome Nat
  | awaitEmptiness _ _ => Outcome Unit

def run {σ : Type} [Cluster σ] : (op : Operation) → ResourceSet → Action σ op.Result
  | names f, s => s.names f
  | list f, s => s.list f
  | count f, s => s.count f
  | awaitSize f expected policy, s => s.awaitSize f expected policy
  | awaitEmptiness f policy, s => s.awaitEmptiness f policy
  | awaitPodsReady f policy, s => s.awaitPodsReady f policy

def isPaced : Operation → Bool
  | awaitSize _ _ _ | awaitEmptiness _ _ | awaitPodsReady _ _ => true
  | names _ | list _ | count _ => false

end ResourceSet.Operation

/-- An operation, and what it is called on. -/
inductive Call where
  | client (c : Client) (op : Client.Operation)
  | handle (h : Handle) (op : Handle.Operation)
  | set (s : ResourceSet) (op : ResourceSet.Operation)

namespace Call

/-- What a call gives; of a handle also the handle as it is afterwards. -/
abbrev Result : Call → Type
  | client _ op => op.Result
  | handle _ op => op.Result × Handle
  | set _ op => op.Result

/-- The client whose account and cancellation the call goes by. -/
def caller : Call → Client
  | client c _ => c
  | handle h _ => h.client
  | set s _ => s.client

def isPaced : Call → Bool
  | client _ op => op.isPaced
  | handle _ op => op.isPaced
  | set _ op => op.isPaced

def run {σ : Type} [Cluster σ] : (x : Call) → Action σ x.Result
  | client c op => op.run c
  | handle h op => op.run h
  | set s op => op.run s

end Call

/-- What the user of a session does: the next call depends on what the calls before it gave. Between
calls anything may happen, except that commands of others are not in the log. -/
inductive Session (σ : Type) where
  | done
  | call (x : Call) (next : x.Result → Session σ)
  | meanwhile (change : World σ → World σ) (keeps : ∀ w, (change w).log = w.log)
      (next : Session σ)

namespace Session

variable {σ : Type} [Cluster σ]

def run : Session σ → Action σ Unit
  | done => return ()
  | call x next => do (next (← x.run)).run
  | meanwhile change _ next => do
    modify change
    next.run

/-- The calls of a session in order, each with the world in which it begins. -/
def calls : Session σ → World σ → List (Call × World σ)
  | done, _ => []
  | call x next, w => (x, w) :: (next (x.run w).1).calls (x.run w).2
  | meanwhile change _ next, w => next.calls (change w)

end Session

end Settle
