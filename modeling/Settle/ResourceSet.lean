import Settle.Handle
import Settle.Pods

/-!
# Sets of objects

All objects of one kind in a namespace, or in the whole cluster, that meet a filter.
-/

namespace Settle

/-- Label selectors, all of which must hold, and the path to sort by. -/
structure Filter where
  labels : List String := []
  sortBy : Option String := none
  deriving DecidableEq, Repr

namespace Filter

def creation : String := ".metadata.creationTimestamp"

def flags (f : Filter) : List String :=
  (if f.labels.isEmpty then [] else ["-l", ",".intercalate f.labels])
    ++ (match f.sortBy with | some path => ["--sort-by=" ++ path] | none => [])

end Filter

structure ResourceSet where
  client : Client
  kind : String
  scope : Option String
  deriving DecidableEq, Repr

namespace ResourceSet

variable {σ : Type} [Cluster σ]

/-- The query for the objects that meet a filter, with the given form of output. -/
def query (s : ResourceSet) (f : Filter) (output : String) : Invocation :=
  s.client.command .get s.scope (s.kind :: f.flags ++ ["-o", output])

def namesQuery (s : ResourceSet) (f : Filter) : Invocation :=
  s.query f "jsonpath=\x7b.items[*].metadata.name\x7d"

def describe (s : ResourceSet) (f : Filter) : String :=
  s.kind ++ " in " ++ s.scope.getD "cluster"
    ++ (if f.labels.isEmpty then "" else " matching " ++ ",".intercalate f.labels)

def namesIn (s : ResourceSet) (reply : Except CommandFailure String) :
    Except Error (List String) :=
  (ObjectRef.answer s.kind reply).map Text.words

def names (s : ResourceSet) (f : Filter) : Action σ (Except Error (List String)) := do
  return s.namesIn (← Action.issue (s.namesQuery f))

def list (s : ResourceSet) (f : Filter) : Action σ (Except Error (List Handle)) := do
  return (← s.names f).map fun names =>
    names.map fun name => { client := s.client, object := ⟨s.kind, s.scope, name⟩ }

def count (s : ResourceSet) (f : Filter) : Action σ (Except Error Nat) := do
  return (← s.names f).map List.length

def size (s : ResourceSet) (f : Filter) (expected : CountExpectation) : Watch Nat where
  goal := s.describe f ++ " " ++ expected.text ++ " " ++ s.kind
  query := s.namesQuery f
  judge reply :=
    match s.namesIn reply with
    | .error e => .ofError e
    | .ok names =>
      if expected.holds names.length then .converged names.length
      else .notYet (toString names.length ++ " found")

/-- No object is left; where the kind is not known there is none. -/
def emptiness (s : ResourceSet) (f : Filter) : Watch Unit where
  goal := s.describe f ++ " to be empty"
  query := s.namesQuery f
  judge reply :=
    match s.namesIn reply with
    | .error (.unknownKind _) => .converged ()
    | .error e => .ofError e
    | .ok names =>
      if names.isEmpty then .converged ()
      else .notYet ("remaining: " ++ " ".intercalate names)

def judgePods (pods : List Json.Value) : Verdict Nat :=
  let unready := Pods.unready pods
  if pods.isEmpty then .notYet "no pods match"
  else if unready.isEmpty then .converged pods.length
  else .notYet (toString unready.length ++ "/" ++ toString pods.length ++ " pods not ready: "
    ++ " ".intercalate unready)

/-- There are pods, and all of them are ready; gives their number. -/
def podsReady (s : ResourceSet) (f : Filter) : Watch Nat where
  goal := s.describe f ++ " to be ready"
  query := s.query f "json"
  judge reply :=
    match ObjectRef.answer s.kind reply with
    | .error e => .ofError e
    | .ok output =>
      match Pods.ofList output with
      | .error e => .fatal e
      | .ok pods => judgePods pods

def awaitSize (s : ResourceSet) (f : Filter) (expected : CountExpectation) (policy : Policy) :
    Action σ (Outcome Nat) :=
  s.client.await (s.size f expected) policy

def awaitEmptiness (s : ResourceSet) (f : Filter) (policy : Policy) : Action σ (Outcome Unit) :=
  s.client.await (s.emptiness f) policy

def awaitPodsReady (s : ResourceSet) (f : Filter) (policy : Policy) : Action σ (Outcome Nat) :=
  s.client.await (s.podsReady f) policy

end ResourceSet

end Settle
