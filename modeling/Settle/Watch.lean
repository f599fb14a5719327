import Settle.Client

/-!
# Watches

A watch is a condition on the cluster that can be waited for: a name for it, one command that every
look issues, and what an answer to it says. Since the verdict depends on the answer alone, a wait
carries nothing from one look to the next.
-/

namespace Settle

/-- The error as a verdict: an absent object and a failure in passing may mend themselves. -/
def Verdict.ofError {α : Type} (e : Error) : Verdict α :=
  if e.isNotFound || e.isTransient then .notYet e.message else .fatal e

structure Watch (α : Type) where
  goal : String
  query : Invocation
  judge : Except CommandFailure String → Verdict α

namespace Watch

variable {σ α : Type} [Cluster σ]

def look (w : Watch α) : Action σ (Verdict α) := do
  return w.judge (← Action.issue w.query)

end Watch

def Client.await {σ α : Type} [Cluster σ] (c : Client) (w : Watch α) (policy : Policy) :
    Action σ (Outcome α) :=
  (c.pace policy).await w.goal w.look

end Settle
