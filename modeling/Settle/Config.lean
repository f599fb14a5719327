import Settle.Files.System
import Settle.Number.Reading
import Settle.Policy
import Settle.Yaml.Node

/-!
# Configuration

What a session is configured with: the program that talks to the cluster, the cluster's credentials
for both accounts, the directory for scratch files, and policies. A configuration file comes first;
variables of the environment that are set and not empty override it.
-/

namespace Settle

open Yaml (Document Node)

structure Config where
  binary : String
  adminKubeconfig : Option String
  userKubeconfig : Option String
  scratch : String
  policies : PolicySet
  deriving DecidableEq, Repr

/-- Why a configuration file could not be used. -/
inductive ConfigError where
  | read (path : String) (cause : FileError)
  | parse (path : String)
  deriving DecidableEq, Repr

namespace Config

abbrev Environment := List (String × String)

def temporary (env : Environment) : String := (env.lookup "TMPDIR").getD "/tmp"

def default (env : Environment) : Config :=
  { binary := "kubectl", adminKubeconfig := none, userKubeconfig := none
    scratch := temporary env, policies := {} }

def setting? (env : Environment) (name : String) : Option String :=
  (env.lookup name).filter fun value => !value.isEmpty

def override (env : Environment) (c : Config) : Config :=
  { c with
    binary := (setting? env "CONVERGE_BINARY").getD c.binary
    adminKubeconfig := (setting? env "KUBECONFIG").or c.adminKubeconfig
    userKubeconfig := (setting? env "CONVERGE_USER_KUBECONFIG").or c.userKubeconfig
    scratch := (setting? env "CONVERGE_SCRATCH_DIR").getD c.scratch }

def ofEnvironment (env : Environment) : Config := override env (default env)

/-! ## Reading a configuration file -/

def text? : Node → Option String
  | .scalar text _ _ => some text
  | _ => none

/-- The values of a field in a map, if all keys are scalars. Nothing is an empty map. -/
def field? (d : Document) (name : String) (n : Node) : Option (List Node) :=
  match d.resolve n with
  | .map entries => do
    let keys ← entries.mapM fun (key, value) => (text? (d.resolve key)).map (·, value)
    return (keys.filter fun (key, _) => key = name).map (·.2)
  | n => if n.isNothing then some [] else none

/-- Reads a field that may be absent and must not be repeated. -/
def readField {α : Type} (d : Document) (name : String) (read : Document → Node → Option α)
    (n : Node) : Option (Option α) := do
  match ← field? d name n with
  | [] => return none
  | [value] => return some (← read d value)
  | _ => none

def readText (d : Document) (n : Node) : Option String := text? (d.resolve n)

def isNullText (text : String) : Bool := ["~", "null", "Null", "NULL"].contains text

/-- A scalar, or none for null. What is tagged as null must be null. -/
def readOptional (d : Document) (n : Node) : Option (Option String) :=
  match d.resolve n with
  | .scalar text .plain (some "tag:yaml.org,2002:null") =>
    if isNullText text then some none else none
  | .scalar text .plain none =>
    some (if text.isEmpty || isNullText text then none else some text)
  | n => (text? n).map some

/-- A number in digits, or one of the words for infinity and for no number. -/
def numberOf? (text : String) : Option Number.Binary64 :=
  let unsigned := match text.toList with
    | '+' :: '+' :: _ => none
    | '+' :: '-' :: _ => none
    | '+' :: cs => some (String.ofList cs)
    | _ => some text
  unsigned.bind fun plain =>
    if [".inf", ".Inf", ".INF"].contains plain then some (.infinite false)
    else if ["-.inf", "-.Inf", "-.INF"].contains text then some (.infinite true)
    else if [".nan", ".NaN", ".NAN"].contains text then some .nan
    else
      match Number.Binary64.ofText? plain with
      | some (.finite negative m e) => some (.finite negative m e)
      | _ => none

/-- A number, which must be plain, or literal with the tag of numbers. -/
def readNumber (d : Document) (n : Node) : Option Number.Binary64 :=
  match d.resolve n with
  | .scalar text .plain _ => numberOf? text
  | .scalar text .literal (some "tag:yaml.org,2002:float") => numberOf? text
  | _ => none

def readSeconds (d : Document) (n : Node) : Option Duration :=
  (readNumber d n).bind fun seconds => (Duration.ofBinary64 seconds).toOption

def readPolicy (d : Document) (n : Node) : Option Policy := do
  let interval ← readField d "interval" readSeconds n
  let timeout ← readField d "timeout" readSeconds n
  return ⟨← interval, ← timeout⟩

def readPolicies (d : Document) (n : Node) : Option PolicySet := do
  let applyRetry ← readField d "apply_retry" readPolicy n
  let resource ← readField d "resource" readPolicy n
  let cluster ← readField d "cluster" readPolicy n
  let unset : PolicySet := {}
  return { applyRetry := applyRetry.getD unset.applyRetry
           resource := resource.getD unset.resource
           cluster := cluster.getD unset.cluster }

/-- Reads a configuration; absent fields keep their values in `base`. -/
def ofDocument (base : Config) (d : Document) : Option Config := do
  let binary ← readField d "binary" readText d.root
  let admin ← readField d "admin_kubeconfig" readOptional d.root
  let user ← readField d "user_kubeconfig" readOptional d.root
  let scratch ← readField d "scratch_dir" readText d.root
  let policies ← readField d "policies" readPolicies d.root
  return { binary := binary.getD base.binary
           adminKubeconfig := admin.getD base.adminKubeconfig
           userKubeconfig := user.getD base.userKubeconfig
           scratch := scratch.getD base.scratch
           policies := policies.getD base.policies }

def load (env : Environment) (files : FileSystem) (path : String) : Except ConfigError Config :=
  match files.readText path with
  | .error cause => .error (.read path cause)
  | .ok text =>
    match (Document.ofText? text).bind (ofDocument (default env)) with
    | some c => .ok c
    | none => .error (.parse path)

open Json (Value)

/-- A configuration as JSON; absent credentials are left out. -/
def toJson (c : Config) : Value :=
  let given (key : String) (value : Option String) : List (String × Value) :=
    match value with
    | some text => [(key, .string text)]
    | none => []
  .ofMembers (("binary", .string c.binary) :: given "admin_kubeconfig" c.adminKubeconfig
    ++ given "user_kubeconfig" c.userKubeconfig
    ++ [("scratch_dir", .string c.scratch), ("policies", c.policies.toJson)])

end Config

def ConfigError.message : ConfigError → String
  | .read path cause => "failed to read config " ++ path ++ ": " ++ cause.message
  | .parse path => "invalid config " ++ path

end Settle
