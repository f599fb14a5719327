import Settle.CommandLine.Request
import Settle.Config
import Settle.ResourceSet

/-!
# Plans

Before anything is done, a task is checked as a whole and becomes a plan: its objects, what is
expected of them, and the policies of its waits. A plan cannot fail for a bad argument any more.
-/

namespace Settle.CommandLine

open Number (Binary64 NumberStyle)

inductive Fault where
  | config (path : String)
  | duration (seconds : Binary64)
  | pattern (source : String)
  | noDemand
  | noTarget (text : String)
  | failed (cause : Error)

def Fault.report : Fault → String
  | .config path => "failed to load " ++ path
  | .duration seconds => "invalid duration " ++ seconds.render .display
  | .pattern source => "invalid pattern " ++ source
  | .noDemand => "no expectation given"
  | .noTarget text => "--wait-for expects KIND/NAME, got " ++ text
  | .failed cause => cause.message

/-- A task with all its arguments checked. -/
inductive Plan where
  | exists (h : Handle)
  | awaitPresence (h : Handle) (policy : Policy)
  | awaitAbsence (h : Handle) (policy : Policy)
  | awaitRollout (h : Handle) (policy : Policy)
  | awaitPods (s : ResourceSet) (f : Filter) (policy : Policy)
  | get (h : Handle) (p : Projection)
  | awaitField (h : Handle) (p : Projection) (expected : FieldExpectation) (policy : Policy)
  | delete (h : Handle) (absence : Option Policy)
  | apply (client : Client) (e : Engine) (t : Template) (retry : Policy)
      (presence : Option (Handle × Policy))
  | list (s : ResourceSet) (f : Filter) (atLeast : Option (Nat × Policy))
  | awaitLog (h : Handle) (regex : Regex) (container : Option String) (policy : Policy)

namespace Plan

/-- Seconds as a duration; without seconds the duration is `default`. -/
def duration (default : Duration) : Option Binary64 → Except Fault Duration
  | none => .ok default
  | some seconds => (Duration.ofBinary64 seconds).mapError fun _ => .duration seconds

/-- The policy of a wait; what is not given is as in the policy `base`. -/
def policy (base : Policy) (p : Pacing) : Except Fault Policy := do
  return ⟨← duration base.interval p.interval, ← duration base.timeout p.timeout⟩

def regex (source : String) : Except Fault Regex :=
  match Regex.compile? source with
  | some r => .ok r
  | none => .error (.pattern source)

def expectation (d : Demand) : Except Fault FieldExpectation :=
  match d with
  | { equals := some text, .. } => .ok (.equals text)
  | { differs := some text, .. } => .ok (.differs text)
  | { contains := some part, .. } => .ok (.contains part)
  | { lacks := some part, .. } => .ok (.lacks part)
  | { pattern := some source, .. } => (regex source).map .matching
  | { nonBlank := true, .. } => .ok .nonBlank
  | _ => .error .noDemand

/-- The projection that is asked for; a path goes before a pointer. -/
def projection : (jsonPath pointer : Option String) → Projection
  | some path, _ => .ofJsonPath path
  | none, some pointer => .pointer pointer
  | none, none => .raw

def ofTask (c : Config) (client : Client) (scope : Option String) (task : Task) :
    Except Fault Plan := do
  let handle (t : Target) : Handle := { client, object := ⟨t.kind, scope, t.name⟩ }
  let policy (p : Pacing) : Except Fault Policy := policy c.policies.resource p
  match task with
  | .exists target => return .exists (handle target)
  | .awaitPresence target pacing => return .awaitPresence (handle target) (← policy pacing)
  | .awaitAbsence target pacing => return .awaitAbsence (handle target) (← policy pacing)
  | .awaitRollout target pacing => return .awaitRollout (handle target) (← policy pacing)
  | .awaitPods labels pacing =>
    return .awaitPods ⟨client, "pod", scope⟩ { labels } (← policy pacing)
  | .get target path pointer => return .get (handle target) (projection path pointer)
  | .awaitField target path demand pacing =>
    let expected ← expectation demand
    return .awaitField (handle target) (.ofJsonPath path) expected (← policy pacing)
  | .delete target false _ => return .delete (handle target) none
  | .delete target true pacing => return .delete (handle target) (some (← policy pacing))
  | .apply source params process awaited pacing =>
    let presence ← awaited.mapM fun text =>
      match Text.splitOnce '/' text with
      | none => .error (.noTarget text)
      | some (kind, name) => do return (handle ⟨kind, name⟩, ← policy pacing)
    let expander := if process then .process client false else .substitution
    return .apply client ⟨expander, c.scratch⟩ (.ofParams source params) c.policies.applyRetry
      presence
  | .list kind labels byCreation atLeast pacing =>
    let sortBy := if byCreation then some Filter.creation else none
    let atLeast ← atLeast.mapM fun n => do return (n, ← policy pacing)
    return .list ⟨client, kind, scope⟩ { labels, sortBy } atLeast
  | .awaitLog target pattern container pacing =>
    let r ← regex pattern
    return .awaitLog (handle target) r container (← policy pacing)

end Plan

end Settle.CommandLine
