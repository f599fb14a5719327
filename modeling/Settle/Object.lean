import Settle.Client
import Settle.Counter
import Settle.Projection
import Settle.Expectation
import Settle.Rollout
import Settle.Text.Lines
import Settle.Watch

/-!
# Objects

An object of the cluster is addressed by its kind, its name and, unless it belongs to the cluster
as a whole, its namespace. Here are the queries about one object, what their answers mean, and the
watches made of them.
-/

namespace Settle

open Json (Value)

/-- Where an object is found. -/
structure ObjectRef where
  kind : String
  scope : Option String
  name : String
  deriving DecidableEq, Repr

namespace ObjectRef

def target (o : ObjectRef) : String := o.kind ++ "/" ++ o.name

def text (o : ObjectRef) : String :=
  "<Kind: " ++ o.kind ++ ", Name: " ++ o.name ++ ", Namespace: " ++ o.scope.getD "" ++ ">"

def nameQuery (o : ObjectRef) (c : Client) : Invocation :=
  c.command .get o.scope [o.kind, o.name, "-o", "name"]

def projectionQuery (o : ObjectRef) (c : Client) (p : Projection) : Invocation :=
  c.command .get o.scope (o.kind :: o.name :: p.flags)

def jsonQuery (o : ObjectRef) (c : Client) : Invocation :=
  c.command .get o.scope [o.kind, o.name, "-o", "json"]

def containerFlags : Option String → List String
  | none => []
  | some container => ["-c", container]

def logsQuery (o : ObjectRef) (c : Client) (container : Option String) : Invocation :=
  c.command .logs o.scope (o.target :: containerFlags container)

def answer (target : String) (reply : Except CommandFailure String) : Except Error String :=
  reply.mapError (.ofCommand · target)

def projected (o : ObjectRef) (p : Projection) (reply : Except CommandFailure String) :
    Except Error String := do
  p.extract (← answer o.target reply)

def document (o : ObjectRef) (reply : Except CommandFailure String) : Except Error Value := do
  (Json.parse (← answer o.target reply)).mapError (.decode o.target)

def presence (o : ObjectRef) (c : Client) : Watch Unit where
  goal := o.text ++ " to appear"
  query := o.nameQuery c
  judge
    | .ok name => if name.isEmpty then .notYet "get returned no object" else .converged ()
    | .error f =>
      match f.kind with
      | .notFound => .notYet "not found"
      | .transient => .notYet f.text
      | .unknownKind | .rejected | .other => .fatal (.ofCommand f o.target)

/-- The object is gone; where its kind is not known there is no object. -/
def absence (o : ObjectRef) (c : Client) : Watch Unit where
  goal := o.text ++ " to be gone"
  query := o.nameQuery c
  judge
    | .ok name => .notYet ("still present as " ++ name)
    | .error f =>
      match f.kind with
      | .notFound | .unknownKind => .converged ()
      | .transient => .notYet f.text
      | .rejected | .other => .fatal (.ofCommand f o.target)

def field (o : ObjectRef) (c : Client) (p : Projection) (expected : FieldExpectation) :
    Watch String where
  goal := p.text ++ " of " ++ o.text ++ " " ++ expected.text
  query := o.projectionQuery c p
  judge reply :=
    match o.projected p reply with
    | .error e => .ofError e
    | .ok value =>
      if expected.holds value then .converged value
      else .notYet (p.text ++ " is " ++ Text.quote value)

def readyReplicas : Projection := .ofJsonPath ".status.readyReplicas"

def ready (o : ObjectRef) (c : Client) (expected : Nat) : Watch Nat where
  goal := o.text ++ " to have " ++ toString expected ++ " ready replicas"
  query := o.projectionQuery c readyReplicas
  judge reply :=
    match o.projected readyReplicas reply with
    | .error e => .ofError e
    | .ok value =>
      match readCounter value "readyReplicas" with
      | .error e => .fatal e
      | .ok n =>
        if n = expected then .converged n
        else .notYet (toString n ++ "/" ++ toString expected ++ " replicas ready")

/-- The rollout of a workload is complete; gives the number of replicas desired. -/
def rollout (o : ObjectRef) (c : Client) (w : Workload) : Watch Nat where
  goal := o.text ++ " to roll out"
  query := o.jsonQuery c
  judge reply :=
    match o.document reply with
    | .error e => .ofError e
    | .ok document =>
      let r := w.rollout document
      if r.isComplete then .converged r.desired else .notYet r.text

/-- A line of the logs matches; gives the first one that does. -/
def logLine (o : ObjectRef) (c : Client) (regex : Regex) (container : Option String) :
    Watch String where
  goal := o.text ++ " logs to match /" ++ regex.source ++ "/"
  query := o.logsQuery c container
  judge reply :=
    match answer o.target reply with
    | .error e => .ofError e
    | .ok logs =>
      match (Text.lines logs).find? regex.accepts with
      | some line => .converged line
      | none => .notYet (toString (Text.lines logs).length ++ " log lines, none match")

end ObjectRef

end Settle
