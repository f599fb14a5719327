import Settle.Command.Invocation
import Settle.Text.Blank
import Settle.Text.Search

/-!
# Failed commands

What a failed command wrote to its error stream tells what kind of failure it was. Each class but
the last has a list of markers, fixed texts of which one must occur. The classes are tried from the
most to the least definite, so a message with markers of two classes gets the more definite one.
-/

namespace Settle

/-- Kinds of failure, from the least to the most definite. -/
inductive FailureClass where
  | other
  | rejected
  | transient
  | notFound
  | unknownKind
  deriving DecidableEq, Repr

namespace FailureClass

def rank : FailureClass → Nat
  | .other => 0
  | .rejected => 1
  | .transient => 2
  | .notFound => 3
  | .unknownKind => 4

/-- The texts of which one shows the class. For an absent object only the status reason of the
server counts, since other messages also speak of things not found. -/
def markers : FailureClass → List String
  | .other => []
  | .rejected =>
    ["(Invalid)", "is invalid", "(Forbidden)", "(BadRequest)", "(AlreadyExists)",
     "admission webhook", "error validating", "unknown field"]
  | .transient =>
    ["connection refused", "connection reset by peer", "i/o timeout", "TLS handshake timeout",
     "(ServiceUnavailable)", "(TooManyRequests)", "(Timeout)", "(InternalError)",
     "etcdserver: request timed out", "the object has been modified", "is waiting to start",
     "ContainerCreating", "unable to upgrade connection"]
  | .notFound => ["Error from server (NotFound)"]
  | .unknownKind =>
    ["the server doesn't have a resource type", "no matches for kind",
     "could not find the requested resource"]

/-- The most definite class of which a marker is found by `found`. -/
def classifyBy (found : String → Bool) : FailureClass :=
  if (markers .unknownKind).any found then .unknownKind
  else if (markers .notFound).any found then .notFound
  else if (markers .transient).any found then .transient
  else if (markers .rejected).any found then .rejected
  else .other

def classify (text : String) : FailureClass := classifyBy (Text.contains text)

end FailureClass

/-- A failed command: its text, its exit code unless a signal ended it, what it said, and the class
of that. -/
structure CommandFailure where
  command : String
  exitCode : Option Int
  message : String
  kind : FailureClass
  deriving DecidableEq, Repr

namespace CommandFailure

def silentMessage : Option Int → String
  | some code => "exit status " ++ toString code
  | none => "terminated by signal"

/-- A command that ended with an exit code or by a signal, and its error stream. The message is the
stream without blanks around it. -/
def ofExit (i : Invocation) (exitCode : Option Int) (stderr : String) : CommandFailure :=
  let said := Text.trim stderr
  { command := i.text, exitCode
    message := if said.isEmpty then silentMessage exitCode else said
    kind := FailureClass.classify said }

def ofClass (i : Invocation) (kind : FailureClass) (message : String) : CommandFailure :=
  { command := i.text, exitCode := none, message, kind }

def absent (i : Invocation) : CommandFailure :=
  ofExit i (some 1) ("Error from server (NotFound): " ++ " ".intercalate i.args ++ " not found")

def unregistered (i : Invocation) : CommandFailure :=
  ofExit i (some 1)
    ("error: the server doesn't have a resource type \"" ++ i.args.headD "" ++ "\"")

def text (f : CommandFailure) : String := "`" ++ f.command ++ "` failed: " ++ f.message

end CommandFailure

end Settle
