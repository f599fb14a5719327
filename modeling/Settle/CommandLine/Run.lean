import Settle.CommandLine.Help
import Settle.CommandLine.Plan
import Settle.Subprocess

/-!
# Running a command line

A run reads the request, loads the configuration, makes a plan and carries it out. It ends with a
status, perhaps an answer on the standard output, and perhaps a report of what went wrong. The
answer is the same in every format; only its writing differs. Without a request the arguments are
refused, or help or the version is printed.
-/

namespace Settle.CommandLine

open Json (Value)

inductive Answer where
  | truth (value : Bool)
  | count (value : Nat)
  | text (value : String)
  | lines (values : List String)
  deriving DecidableEq, Repr

namespace Answer

def plain : Answer → String
  | .truth value => if value then "true" else "false"
  | .count value => toString value
  | .text value => value
  | .lines values => "\n".intercalate values

def json : Answer → Value
  | .truth value => .bool value
  | .count value => .ofNat value
  | .text value => .string value
  | .lines values => .array (values.map .string)

end Answer

/-- The outcome of a task that did not fail: an answer under a label, if there is one, and the
status to end with. -/
structure Completion where
  answer : Option (String × Answer) := none
  status : Nat := 0
  deriving DecidableEq, Repr

def absentStatus : Nat := 2

def Completion.answering (label : String) (a : Answer) : Completion := { answer := some (label, a) }

namespace Plan

variable {σ : Type} [Cluster σ]

def conclude {α : Type} (what : String) (outcome : Outcome α) (complete : α → Completion) :
    Except Error Completion :=
  (outcome.toResult what).map complete

/-- Hands a template's manifest to the cluster, and waits for an object if there is one to wait for.
-/
def deploy (client : Client) (e : Engine) (t : Template) (retry : Policy) :
    Option (Handle × Policy) → Action σ (Except Error Manifest)
  | none => client.applyTemplate e t retry
  | some (h, policy) => do return (← h.applyTemplateAndAwait e t retry policy).1

def awaitAtLeast (s : ResourceSet) (f : Filter) :
    Option (Nat × Policy) → Action σ (Except Error Unit)
  | none => return .ok ()
  | some (n, policy) => do
    let expected := CountExpectation.atLeast n
    let outcome ← s.awaitSize f expected policy
    return (outcome.toResult (expected.text ++ " " ++ s.kind)).map fun _ => ()

def perform : Plan → Action σ (Except Error Completion)
  | .exists h => do
    return (← h.isPresent).map fun found =>
      { answer := some ("exists", .truth found), status := if found then 0 else absentStatus }
  | .awaitPresence h policy => do
    let (outcome, _) ← h.awaitPresence policy
    return conclude (h.object.text ++ " to appear") outcome fun () => {}
  | .awaitAbsence h policy => do
    let (outcome, _) ← h.awaitAbsence policy
    return conclude (h.object.text ++ " to be gone") outcome fun () => {}
  | .awaitRollout h policy => do
    return conclude (h.object.text ++ " to roll out") (← h.awaitRollout policy) fun n =>
      .answering "replicas" (.count n)
  | .awaitPods s f policy => do
    return conclude "labelled pods to be ready" (← s.awaitPodsReady f policy) fun n =>
      .answering "pods" (.count n)
  | .get h p => do return (← h.read p).map fun value => .answering "value" (.text value)
  | .awaitField h p expected policy => do
    let what := p.text ++ " of " ++ h.object.text ++ " " ++ expected.text
    return conclude what (← h.awaitField p expected policy) fun value =>
      .answering "value" (.text value)
  | .delete h none => do return (← h.delete).1.map fun () => {}
  | .delete h (some policy) => do return (← h.clear policy).1.map fun () => {}
  | .apply client e t retry presence => do
    return (← deploy client e t retry presence).map fun m =>
      .answering "manifest" (.text m.path)
  | .list s f atLeast => do
    match ← awaitAtLeast s f atLeast with
    | .error e => return .error e
    | .ok () => return (← s.names f).map fun names => .answering "items" (.lines names)
  | .awaitLog h r container policy => do
    let what := h.object.text ++ " logs to match /" ++ r.source ++ "/"
    return conclude what (← h.awaitLogLine r container policy) fun line =>
      .answering "line" (.text line)

end Plan

/-! ## Whole runs -/

/-- How a run ends. -/
structure Ending where
  status : Nat
  stdout : String := ""
  report : Option String := none
  refused : Bool := false
  deriving DecidableEq, Repr

def printed (format : Format) : Option (String × Answer) → String
  | none => ""
  | some (label, a) =>
    (match format with
      | .text => a.plain
      | .json => (Value.object [(label, a.json)]).compact) ++ "\n"

def ending (format : Format) : Except Fault Completion → Ending
  | .ok c => { status := c.status, stdout := printed format c.answer }
  | .error e => { status := 1, report := some (Text.trimEnd e.report) }

def configure (env : Config.Environment) (files : FileSystem) : Option String → Except Fault Config
  | none => .ok (.ofEnvironment env)
  | some path =>
    match Config.load env files path with
    | .ok c => .ok (c.override env)
    | .error _ => .error (.config path)

def subprocess {η : Type} (env : Config.Environment) (c : Config) (host : η) : Subprocess η :=
  { binary := c.binary, adminKubeconfig := c.adminKubeconfig, userKubeconfig := c.userKubeconfig
    inherited := env.lookup "KUBECONFIG", host }

/-- Where a run takes place: its environment, files, source of names, and machine. -/
structure Site (η : Type) where
  env : Config.Environment
  files : FileSystem
  names : Names
  host : η

variable {η : Type} [Host η]

/-- The plan for a request, and the configuration that it is made under. -/
def Request.plan (r : Request) (env : Config.Environment) (files : FileSystem) :
    Except Fault (Config × Plan) := do
  let c ← configure env files r.config
  return (c, ← Plan.ofTask c { account := r.account } r.scope r.task)

def Request.run (r : Request) (site : Site η) : Except Fault Completion × Site η :=
  match r.plan site.env site.files with
  | .error e => (.error e, site)
  | .ok (c, plan) =>
    let w : World (Subprocess η) :=
      { now := 0, cancelAt := none, log := [], files := site.files, names := site.names
        cluster := subprocess site.env c site.host }
    let (result, w) := plan.perform w
    (result.mapError .failed,
      { site with files := w.files, names := w.names, host := w.cluster.host })

def versionText : String := "converge 0.1.0"

def Stop.ending (env : Config.Environment) : Stop → Ending
  | .refused => { status := 2, refused := true }
  | .version => { status := 0, stdout := versionText ++ "\n" }
  | .help task => { status := 0, stdout := (levelOf task).help env }

def run (args : List String) (site : Site η) : Ending × Site η :=
  match Request.read (site.env.lookup "CONVERGE_CONFIG") args with
  | .error stop => (stop.ending site.env, site)
  | .ok r =>
    let (result, site) := r.run site
    (ending r.format result, site)

end Settle.CommandLine
