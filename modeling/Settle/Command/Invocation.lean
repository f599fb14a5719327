/-!
# Invocations of the cluster's command line

An invocation names one operation on the cluster: a verb, the account it runs as, an optional
namespace and further arguments. Its argument vector starts with the verb, then the namespace flag
when there is a namespace, then the arguments.
-/

namespace Settle

/-- The operations that the cluster's command line offers. -/
inductive Verb where
  | get | create | apply | patch | delete | process | logs | scale
  deriving DecidableEq, Repr

def Verb.all : List Verb := [.get, .create, .apply, .patch, .delete, .process, .logs, .scale]

def Verb.word : Verb → String
  | .get => "get"
  | .create => "create"
  | .apply => "apply"
  | .patch => "patch"
  | .delete => "delete"
  | .process => "process"
  | .logs => "logs"
  | .scale => "scale"

def Verb.mutates : Verb → Bool
  | .create | .apply | .patch | .delete | .scale => true
  | .get | .process | .logs => false

/-- Whom a command runs as: the administrator or a user without privileges. -/
inductive Account where
  | admin | user
  deriving DecidableEq, Repr

def Account.word : Account → String
  | .admin => "admin"
  | .user => "user"

/-- One operation on the cluster. Without a scope it runs without the namespace flag. -/
structure Invocation where
  verb : Verb
  account : Account
  scope : Option String
  args : List String
  deriving DecidableEq, Repr

namespace Invocation

def scopeFlag : Option String → List String
  | none => []
  | some ns => ["-n", ns]

def argv (i : Invocation) : List String := i.verb.word :: scopeFlag i.scope ++ i.args

def text (i : Invocation) : String := " ".intercalate i.argv

end Invocation

end Settle
