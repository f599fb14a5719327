import Settle.Rehearsal.Rule
import Settle.World

/-!
# Rehearsed clusters

A cluster that answers by rules. A command that no rule fits succeeds and says nothing.
-/

namespace Settle.Rehearsal

/-- A failure that is filled in for the command at hand. -/
inductive Failure where
  | absent
  | unregistered
  | ofClass (kind : FailureClass) (message : String)
  | ofExit (code : Option Int) (stderr : String)
  deriving DecidableEq, Repr

def Failure.on (i : Invocation) : Failure → CommandFailure
  | .absent => .absent i
  | .unregistered => .unregistered i
  | .ofClass kind message => .ofClass i kind message
  | .ofExit code stderr => .ofExit i code stderr

/-- A reply, and whether the session is cancelled with it. -/
structure Answer where
  result : Except Failure String
  cancels : Bool := false

def Answer.on (i : Invocation) (a : Answer) : Reply :=
  { result := a.result.mapError (·.on i), cancels := a.cancels }

structure Script where
  rules : List (Rule Answer)

def Script.always (output : String) : Script := ⟨[{ reply := { result := .ok output } }]⟩

instance : Cluster Script where
  answer now i s :=
    let (found, rules) := Rule.answer now i.verb.word i.args s.rules
    let a := found.getD { result := .ok "" }
    (a.on i, ⟨rules⟩)

end Settle.Rehearsal
