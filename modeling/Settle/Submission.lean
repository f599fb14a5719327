import Settle.Wait

/-!
# Submitting

A submission first makes a document and then applies it. Making it is tried again, at the pace of a
wait, as long as it fails in passing; applying it is tried once, since a document that the cluster
refuses will not become acceptable by waiting.
-/

namespace Settle.Pace

variable {σ δ α : Type}

/-- One attempt to make a document, and the pause after it when there is to be another one. -/
def prepareOnce (p : Pace) (start : Duration) (make : Action σ (Except Error δ)) :
    Action σ (Turn (Except Error δ) Error) := do
  if p.mustStop (← get) then return .ended (.error (.cancelled "submission"))
  match ← make with
  | .ok document => return .ended (.ok document)
  | .error e =>
    if e.isTransient then
      match ← p.tick start with
      | .cancelled => return .ended (.error (.cancelled "submission"))
      | .expired => return .ended (.error e)
      | .retry => return .again e
    else return .ended (.error e)

/-- Makes a document, with at most `pauses` pauses between attempts. When the time is used up the
error of the last attempt is the result. -/
def prepareFrom (p : Pace) (start : Duration) (make : Action σ (Except Error δ)) :
    (pauses : Nat) → Action σ (Except Error δ)
  | 0 => do
    match ← p.prepareOnce start make with
    | .ended result => return result
    | .again e => return .error e
  | pauses + 1 => do
    match ← p.prepareOnce start make with
    | .ended result => return result
    | .again _ => prepareFrom p start make pauses

def submit (p : Pace) (make : Action σ (Except Error δ)) (apply : δ → Action σ (Except Error α)) :
    Action σ (Except Error α) := do
  match ← p.prepareFrom (← get).now make p.policy.pauses with
  | .error e => return .error e
  | .ok document => apply document

end Settle.Pace
