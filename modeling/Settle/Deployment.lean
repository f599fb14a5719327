import Settle.Submission
import Settle.Template.Engine

/-!
# Deploying manifests

A manifest is handed to the cluster by its path, once. A template is expanded first, which is tried
again under a policy as long as it fails in passing.
-/

namespace Settle.Client

variable {σ : Type} [Cluster σ]

def submitManifest (c : Client) (verb : Verb) (m : Manifest) : Action σ (Except Error Unit) := do
  match ← Action.issue (c.command verb none ["-f", m.path]) with
  | .ok _ => return .ok ()
  | .error f => return .error (.ofSubmission f m.path)

def applyManifest (c : Client) (m : Manifest) : Action σ (Except Error Unit) :=
  c.submitManifest .apply m

def submitTemplate (c : Client) (verb : Verb) (e : Engine) (t : Template) (retry : Policy) :
    Action σ (Except Error Manifest) :=
  (c.pace retry).submit (e.expand t) fun m => do
    return (← c.submitManifest verb m).map fun _ => m

def applyTemplate (c : Client) (e : Engine) (t : Template) (retry : Policy) :
    Action σ (Except Error Manifest) :=
  c.submitTemplate .apply e t retry

def createFromTemplate (c : Client) (e : Engine) (t : Template) (retry : Policy) :
    Action σ (Except Error Manifest) :=
  c.submitTemplate .create e t retry

end Settle.Client
