import Settle.CommandLine.Grammar
import Settle.Command.Invocation
import Settle.Number.Reading
import Settle.Text.Search

/-!
# Requests

What a user asks for on the command line: a task, the account and the namespace it concerns, a
configuration file and a format for the answer.
-/

namespace Settle.CommandLine

open Number (Binary64)

inductive Format where
  | text | json
  deriving DecidableEq, Repr

/-- Kind and name of an object. -/
structure Target where
  kind : String
  name : String
  deriving DecidableEq, Repr

/-- Seconds given for a wait. -/
structure Pacing where
  interval : Option Binary64 := none
  timeout : Option Binary64 := none
  deriving DecidableEq, Repr

/-- What is demanded of a field. Of several demands the first one in this order counts. -/
structure Demand where
  equals : Option String
  differs : Option String
  contains : Option String
  lacks : Option String
  pattern : Option String
  nonBlank : Bool
  deriving DecidableEq, Repr

inductive Task where
  | exists (target : Target)
  | awaitPresence (target : Target) (pacing : Pacing)
  | awaitAbsence (target : Target) (pacing : Pacing)
  | awaitRollout (target : Target) (pacing : Pacing)
  | awaitPods (labels : List String) (pacing : Pacing)
  | get (target : Target) (jsonPath pointer : Option String)
  | awaitField (target : Target) (jsonPath : String) (demand : Demand) (pacing : Pacing)
  | delete (target : Target) (await : Bool) (pacing : Pacing)
  | apply (source : String) (params : List (String × String)) (process : Bool)
      (awaited : Option String) (pacing : Pacing)
  | list (kind : String) (labels : List String) (byCreation : Bool) (atLeast : Option Nat)
      (pacing : Pacing)
  | awaitLog (target : Target) (pattern : String) (container : Option String) (pacing : Pacing)
  deriving DecidableEq, Repr

structure Request where
  config : Option String
  scope : Option String
  account : Account
  format : Format
  task : Task
  deriving DecidableEq, Repr

/-! ## What may be given -/

def nonEmpty (text : String) : Bool := !text.isEmpty

def isNumber (text : String) : Bool := (Binary64.ofText? text).isSome

def count? (text : String) : Option Nat := (Number.readNat (Nat.pow 2 64) text).toOption

def format? : String → Option Format
  | "text" => some .text
  | "json" => some .json
  | _ => none

def helpOption : Opt :=
  { name := "help", letter := some 'h', arity := .help, about := "Print help" }

def versionOption : Opt :=
  { name := "version", letter := some 'V', arity := .version, about := "Print version" }

def sharedOptions : List Opt :=
  [{ name := "namespace", letter := some 'n', label := "NAMESPACE"
     about := "Namespace for namespaced resources" },
   { name := "as-user", arity := .flag
     about := "Run commands with the user kubeconfig instead of the admin one" },
   { name := "format", letter := some 'f', label := "FORMAT"
     allows := fun text => (format? text).isSome
     about := "Output format: json, text"
     notes := ["default: text", "possible values: text, json"] },
   { name := "verbose", letter := some 'v', arity := .flag, about := "Enable verbose logging" }]

def configOption : Opt :=
  { name := "config", letter := some 'c', label := "CONFIG", allows := nonEmpty
    about := "Configuration file (YAML)", envVariable := some "CONVERGE_CONFIG" }

def outerLevel : Level where
  task := none
  about := "Submit manifests and wait for cluster state to converge"
  options := configOption :: sharedOptions ++ [helpOption, versionOption]
  operands := []

def targetOperands : List Operand :=
  [{ name := "kind", label := "<KIND>", about := "Resource kind, e.g. deployment" },
   { name := "name", label := "<NAME>", about := "Resource name" }]

def pacingOptions : List Opt :=
  [{ name := "interval", label := "INTERVAL", allows := isNumber
     about := "Seconds between polls (defaults to the configured resource policy)" },
   { name := "timeout", label := "TIMEOUT", allows := isNumber
     about := "Seconds before giving up (defaults to the configured resource policy)" }]

def labelOption : Opt :=
  { name := "label", letter := some 'l', label := "LABEL", arity := .many
    about := "Label selector term, repeatable (combined with AND)" }

def jsonPathOption : Opt :=
  { name := "jsonpath", label := "JSONPATH", about := "JSONPath expression, e.g. .status.phase" }

def paramOption : Opt :=
  { name := "param", letter := some 'p', label := "PARAMS", arity := .many
    allows := fun text => (Text.splitOnce '=' text).isSome
    about := "Template parameter (KEY=VALUE), repeatable" }

def processOption : Opt :=
  { name := "process", arity := .flag
    about := "Expand with the CLI's process verb instead of local substitution" }

def templateOperand : Operand :=
  { name := "template", label := "<TEMPLATE>", allows := nonEmpty, about := "Template file" }

def demandOptions : List Opt :=
  [{ name := "equals", label := "EQUALS", about := "Value must equal" },
   { name := "not-equals", label := "NOT_EQUALS", about := "Value must differ from" },
   { name := "contains", label := "CONTAINS", about := "Value must contain" },
   { name := "not-contains", label := "NOT_CONTAINS", about := "Value must not contain" },
   { name := "matches", label := "MATCHES", about := "Value must match the regular expression" },
   { name := "non-empty", arity := .flag, about := "Value must be non-empty" }]

def taskLevel? (name : String) : Option Level :=
  let level (about : String) (options : List Opt) (operands : List Operand) : Option Level :=
    some { task := some name, about, options := options ++ sharedOptions ++ [helpOption], operands }
  match name with
  | "exists" =>
    level "Check whether a resource exists (exit code 2 if absent, 1 on error)" [] targetOperands
  | "wait-present" => level "Wait until a resource exists" pacingOptions targetOperands
  | "wait-gone" => level "Wait until a resource is gone" pacingOptions targetOperands
  | "wait-rollout" =>
    level "Wait until a deployment or daemonset has fully rolled out" pacingOptions targetOperands
  | "wait-pods" =>
    level "Wait until every container of the labelled pods is ready"
      ({ labelOption with required := true } :: pacingOptions) []
  | "get" =>
    level "Print a field of a resource"
      [jsonPathOption,
       { name := "pointer", label := "POINTER", about := "JSON pointer, e.g. /status/phase" }]
      targetOperands
  | "wait-field" =>
    level "Wait until a field of a resource satisfies an expectation"
      ({ jsonPathOption with required := true } :: demandOptions ++ pacingOptions) targetOperands
  | "delete" =>
    level "Delete a resource; absent resources are not an error"
      ({ name := "wait", arity := .flag, about := "Also wait until the resource is gone" }
        :: pacingOptions)
      targetOperands
  | "apply" =>
    level "Expand a template and apply it"
      (paramOption :: processOption
        :: { name := "wait-for", label := "WAIT_FOR"
             about := "Wait for KIND/NAME to appear after applying" }
        :: pacingOptions)
      [templateOperand]
  | "list" =>
    level "List resources of a kind"
      (labelOption :: { name := "by-creation", arity := .flag, about := "Sort oldest first" }
        :: { name := "at-least", label := "AT_LEAST"
             allows := fun text => (count? text).isSome
             about := "Wait until at least this many resources match" }
        :: pacingOptions)
      [{ name := "kind", label := "<KIND>", about := "Resource kind, e.g. pod" }]
  | "wait-log" =>
    level "Wait until a log line matches a regular expression"
      ({ name := "container", letter := some 'C', label := "CONTAINER", about := "Container name" }
        :: pacingOptions)
      (targetOperands ++
        [{ name := "pattern", label := "<PATTERN>", about := "Regular expression to look for" }])
  | _ => none

/-- Why reading stops when help is asked for by name: on the program, on one of its tasks, or on
help. -/
def helpOn : List String → Stop
  | [] => .help none
  | [name] =>
    if name = "help" ∨ (taskLevel? name).isSome then .help (some name) else .refused
  | _ => .refused

/-! ## From what was given to a request -/

namespace Given

variable (g : Given)

def operand (name : String) : String := (g.value? name).getD ""

def target : Target := ⟨g.operand "kind", g.operand "name"⟩

def pacing : Pacing :=
  { interval := (g.value? "interval").bind Binary64.ofText?
    timeout := (g.value? "timeout").bind Binary64.ofText? }

def demand : Demand :=
  { equals := g.value? "equals", differs := g.value? "not-equals"
    contains := g.value? "contains", lacks := g.value? "not-contains"
    pattern := g.value? "matches", nonBlank := g.has "non-empty" }

end Given

/-- The task of a name, unless options that it needs are missing or exclude each other. -/
def task? (name : String) (g : Given) : Option Task :=
  match name with
  | "exists" => some (.exists g.target)
  | "wait-present" => some (.awaitPresence g.target g.pacing)
  | "wait-gone" => some (.awaitAbsence g.target g.pacing)
  | "wait-rollout" => some (.awaitRollout g.target g.pacing)
  | "wait-pods" => if g.has "label" then some (.awaitPods (g.values "label") g.pacing) else none
  | "get" =>
    if g.has "jsonpath" && g.has "pointer" then none
    else some (.get g.target (g.value? "jsonpath") (g.value? "pointer"))
  | "wait-field" =>
    (g.value? "jsonpath").map fun path => .awaitField g.target path g.demand g.pacing
  | "delete" => some (.delete g.target (g.has "wait") g.pacing)
  | "apply" =>
    some (.apply (g.operand "template") ((g.values "param").filterMap (Text.splitOnce '='))
      (g.has "process") (g.value? "wait-for") g.pacing)
  | "list" =>
    some (.list (g.operand "kind") (g.values "label") (g.has "by-creation")
      ((g.value? "at-least").bind count?) g.pacing)
  | "wait-log" =>
    some (.awaitLog g.target (g.operand "pattern") (g.value? "container") g.pacing)
  | _ => none

/-- The request that is given ahead of the name of the task and after it; what is given after it
goes first. -/
def Request.of (configVariable : Option String) (outer inner : Given) (task : Task) :
    Except Stop Request :=
  let config := (outer.value? "config").or configVariable
  if config = some "" then .error .refused
  else
    let shared (name : String) := (inner.value? name).or (outer.value? name)
    .ok {
      config, task
      scope := shared "namespace"
      account := if (shared "as-user").isSome then .user else .admin
      format := ((shared "format").bind format?).getD .text }

/-- Reads what follows the name of a task, and then looks at what was given ahead of it. -/
def Request.readTask (configVariable : Option String) (outer : Except Stop Given) (name : String)
    (args : List String) : Except Stop Request :=
  if name = "help" then .error (helpOn args)
  else do
    let some level := taskLevel? name | .error .refused
    let inner ← level.read args
    let some task := task? name inner | .error .refused
    Request.of configVariable (← outer) inner task

/-- Reads a request; `configVariable` names the configuration file when no option does. -/
def Request.read (configVariable : Option String) (args : List String) : Except Stop Request := do
  let (outer, name, rest) ← outerLevel.readUntilOperand (.ok []) args.length args
  readTask configVariable outer name rest

end Settle.CommandLine
