import Settle.Text.Utf8
import Settle.World

/-!
# Running the cluster's command line as a subprocess

Every invocation runs the configured program once, with the credentials of the account in its
environment. Its output and its errors are read as UTF-8, malformed parts being replaced.
-/

namespace Settle

/-- A program to run, its arguments, and the credentials in its environment. -/
structure Spawn where
  program : String
  argv : List String
  kubeconfig : Option String
  deriving DecidableEq, Repr

/-- How a program ended: its exit code, unless a signal killed it, and what it wrote. -/
structure Exit where
  code : Option Int := some 0
  stdout : ByteArray := .empty
  stderr : ByteArray := .empty

/-- Machines that run programs, or say why they cannot. -/
class Host (η : Type) where
  spawn : Spawn → η → Except FileError Exit × η

/-- The configured program, the credentials of the accounts, and the machine that runs it. An
account without credentials gets those of the environment, if there are any. -/
structure Subprocess (η : Type) where
  binary : String
  adminKubeconfig : Option String
  userKubeconfig : Option String
  inherited : Option String
  host : η

namespace Subprocess

variable {η : Type}

def kubeconfig (s : Subprocess η) : Account → Option String
  | .admin => s.adminKubeconfig.or s.inherited
  | .user => s.userKubeconfig.or s.inherited

def spawnOf (s : Subprocess η) (i : Invocation) : Spawn :=
  { program := s.binary, argv := i.argv, kubeconfig := s.kubeconfig i.account }

/-- Whether a text has a NUL character, which no program can be given. -/
def hasNul (text : String) : Bool := text.toList.contains '\x00'

def isPassable (p : Spawn) : Bool :=
  !(hasNul p.program || p.argv.any hasNul || (p.kubeconfig.map hasNul).getD false)

def notRun (s : Subprocess η) (i : Invocation) (reason : String) : CommandFailure :=
  .ofClass i .other ("failed to execute " ++ s.binary ++ ": " ++ reason)

def ofExit (i : Invocation) (e : Exit) : Except CommandFailure String :=
  if e.code = some 0 then .ok (Text.trim (Text.Utf8.decodeLossy e.stdout))
  else .error (.ofExit i e.code (Text.Utf8.decodeLossy e.stderr))

def run [Host η] (s : Subprocess η) (i : Invocation) :
    Except CommandFailure String × Subprocess η :=
  let p := s.spawnOf i
  if !isPassable p then (.error (s.notRun i "nul byte found in provided data"), s)
  else
    match Host.spawn p s.host with
    | (.error e, host) => (.error (s.notRun i e.message), { s with host })
    | (.ok e, host) => (ofExit i e, { s with host })

instance [Host η] : Cluster (Subprocess η) where
  answer _ i s :=
    let (result, s) := s.run i
    ({ result }, s)

end Subprocess

end Settle
