import Settle.Json.Pointer

/-!
# Rollouts

Deployments and daemon sets report how far a rollout has come by three counters of their JSON form.
The rollout is complete when as many replicas as desired are ready and as many are up to date.
-/

namespace Settle

open Json (Value)

inductive Workload where
  | deployment
  | daemonSet
  deriving DecidableEq, Repr

/-- The counters of a rollout. -/
structure Rollout where
  desired : Nat
  ready : Nat
  updated : Nat
  deriving DecidableEq, Repr

namespace Workload

/-- The first part of a kind's name, in lower case: what stands before the API group. -/
def bareKind (kind : String) : String :=
  String.ofList ((kind.toList.map Char.toLower).takeWhile (· ≠ '.'))

/-- The workload that a kind names, in any case, in short or in full. -/
def ofKind? (kind : String) : Option Workload :=
  match bareKind kind with
  | "deployment" | "deployments" | "deploy" => some .deployment
  | "daemonset" | "daemonsets" | "ds" => some .daemonSet
  | _ => none

def word : Workload → String
  | .deployment => "Deployment"
  | .daemonSet => "DaemonSet"

/-- A counter of a document, unless it is absent or no whole number of 64 bits. -/
def counter? (document : Value) (pointer : String) : Option Nat :=
  (document.pointer? pointer).bind Value.asNat?

/-- The counters of a document. Absent ones are zero, except that a deployment wants one replica
unless it says otherwise. -/
def rollout (w : Workload) (document : Value) : Rollout :=
  let counter (pointer : String) (absent : Nat) := (counter? document pointer).getD absent
  match w with
  | .deployment =>
    { desired := counter "/spec/replicas" 1
      ready := counter "/status/availableReplicas" 0
      updated := counter "/status/updatedReplicas" 0 }
  | .daemonSet =>
    { desired := counter "/status/desiredNumberScheduled" 0
      ready := counter "/status/numberReady" 0
      updated := counter "/status/updatedNumberScheduled" 0 }

end Workload

namespace Rollout

def isComplete (r : Rollout) : Bool := r.ready == r.desired && r.updated == r.desired

def text (r : Rollout) : String :=
  toString r.ready ++ "/" ++ toString r.desired ++ " ready, " ++ toString r.updated ++ "/"
    ++ toString r.desired ++ " updated"

end Rollout

end Settle
