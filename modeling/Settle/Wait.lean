import Settle.Policy
import Settle.World

/-!
# Waiting

A wait looks at the cluster at once and then again after every pause, until it has converged, has
failed for good, or the timeout is used up. The last pause is cut so that the last look falls on the
deadline. A cancellation is noticed before every look and during every pause.

The number of looks is bounded by the policy: after all pauses that fit into the timeout the
deadline is reached. The recursion counts them down.
-/

namespace Settle

inductive Verdict (α : Type) where
  | converged (value : α)
  | notYet (observation : String)
  | fatal (cause : Error)
  deriving DecidableEq

inductive Outcome (α : Type) where
  | success (value : α)
  /-- The deadline passed; carries what the last look saw. -/
  | timedOut (elapsed : Duration) (last : String)
  | fatal (cause : Error)
  deriving DecidableEq

namespace Outcome

variable {α β : Type}

def isSuccess : Outcome α → Bool
  | .success _ => true
  | _ => false

def map (f : α → β) : Outcome α → Outcome β
  | .success value => .success (f value)
  | .timedOut elapsed last => .timedOut elapsed last
  | .fatal cause => .fatal cause

def toResult (what : String) : Outcome α → Except Error α
  | .success value => .ok value
  | .timedOut elapsed last => .error (.timeout what elapsed last)
  | .fatal cause => .error cause

end Outcome

inductive Tick where
  | retry
  | expired
  | cancelled
  deriving DecidableEq, Repr

/-- How one turn of a wait ends: with the result of all, or with what the next turn goes on from. -/
inductive Turn (ω ε : Type) where
  | ended (result : ω)
  | again (last : ε)

/-- How a wait is paced: its policy, and whether it heeds the cancellation. -/
structure Pace where
  policy : Policy
  heedsCancel : Bool
  deriving DecidableEq, Repr

namespace Pace

variable {σ α : Type}

def pauseAfter (p : Pace) (elapsed : Duration) : Duration :=
  min p.policy.pause (p.policy.timeout - elapsed)

def tick (p : Pace) (start : Duration) : Action σ Tick := do
  let elapsed := (← get).now - start
  if p.policy.timeout ≤ elapsed then return .expired
  if ← Action.pauseFor p.heedsCancel (p.pauseAfter elapsed) then return .retry
  else return .cancelled

def mustStop (p : Pace) (w : World σ) : Bool := p.heedsCancel && w.isCancelled

/-- One look at the cluster, and the pause after it when the wait goes on. -/
def lookOnce (p : Pace) (what : String) (start : Duration) (look : Action σ (Verdict α)) :
    Action σ (Turn (Outcome α) String) := do
  if p.mustStop (← get) then return .ended (.fatal (.cancelled what))
  match ← look with
  | .converged value => return .ended (.success value)
  | .fatal cause => return .ended (.fatal cause)
  | .notYet seen =>
    match ← p.tick start with
    | .cancelled => return .ended (.fatal (.cancelled what))
    | .expired => return .ended (.timedOut ((← get).now - start) seen)
    | .retry => return .again seen

/-- Looks until the wait ends, with at most `pauses` pauses between looks. -/
def awaitFrom (p : Pace) (what : String) (start : Duration) (look : Action σ (Verdict α)) :
    (pauses : Nat) → Action σ (Outcome α)
  | 0 => do
    match ← p.lookOnce what start look with
    | .ended outcome => return outcome
    | .again seen => return .timedOut ((← get).now - start) seen
  | pauses + 1 => do
    match ← p.lookOnce what start look with
    | .ended outcome => return outcome
    | .again _ => awaitFrom p what start look pauses

/-- Looks at the cluster until it has converged, at this pace; `what` names the awaited state. -/
def await (p : Pace) (what : String) (look : Action σ (Verdict α)) : Action σ (Outcome α) := do
  p.awaitFrom what (← get).now look p.policy.pauses

end Pace

end Settle
