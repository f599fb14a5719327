import Settle.Error
import Settle.Files.System
import Settle.Names

/-!
# The world of a session

Everything an operation can see and change: a clock, a cancellation that fires at an instant, the
cluster with the commands issued to it, the files, and the source of fresh names. The clock moves
only while something sleeps, and then to the end of the sleep or to the cancellation.

The cluster is any state with a rule for the next answer, which may depend on the time and on the
invocation. Actions are state transformers of the world.
-/

namespace Settle

/-- What a cluster answers to a command. -/
structure Reply where
  result : Except CommandFailure String
  /-- Whether the session is cancelled while the command runs. -/
  cancels : Bool := false

/-- States from which commands are answered. -/
class Cluster (σ : Type) where
  answer : (now : Duration) → Invocation → σ → Reply × σ

structure World (σ : Type) where
  now : Duration
  cancelAt : Option Duration
  /-- The commands issued, the latest one first. -/
  log : List Invocation
  files : FileSystem
  names : Names
  cluster : σ

abbrev Action (σ α : Type) := StateM (World σ) α

namespace World

variable {σ : Type}

def isCancelled (w : World σ) : Bool :=
  match w.cancelAt with
  | some c => c ≤ w.now
  | none => false

/-- Fires the cancellation, unless it has fired before. -/
def cancel (w : World σ) : World σ :=
  { w with cancelAt := some (match w.cancelAt with | some c => min c w.now | none => w.now) }

/-- The instant at which the cancellation cuts a sleep of `d` short. -/
def wakeUp (w : World σ) (d : Duration) : Option Duration :=
  w.cancelAt.bind fun c => if c < w.now + d then some (max c w.now) else none

end World

namespace Action

variable {σ : Type}

def cancel : Action σ Unit := modify World.cancel

def sleep (d : Duration) : Action σ Unit := modify fun w => { w with now := w.now + d }

/-- Lets time pass unless the cancellation, when the sleeper heeds it, comes first. Says whether
the whole time passed. -/
def pauseFor (heedsCancel : Bool) (d : Duration) : Action σ Bool := fun w =>
  match (if heedsCancel then w.wakeUp d else none) with
  | some c => (false, { w with now := c })
  | none => (true, { w with now := w.now + d })

/-- Issues a command, which is logged, and gives the cluster's answer. -/
def issue [Cluster σ] (i : Invocation) : Action σ (Except CommandFailure String) := fun w =>
  let (reply, cluster) := Cluster.answer w.now i w.cluster
  let w := { w with log := i :: w.log, cluster }
  (reply.result, if reply.cancels then w.cancel else w)

end Action

end Settle
