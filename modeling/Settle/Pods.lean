import Settle.Error
import Settle.Json.Pointer
import Settle.Json.Reader

/-!
# Pods

A pod is ready when it reports its containers, at least one, and each of them is ready.
-/

namespace Settle.Pods

open Json (Value)

/-- The containers' statuses of a pod; none when they are absent or no list. -/
def containers (pod : Value) : List Value :=
  ((pod.pointer? "/status/containerStatuses").bind Value.asArray?).getD []

def containerReady (status : Value) : Bool :=
  (status.member? "ready").bind Value.asBool? == some true

def isReady (pod : Value) : Bool :=
  !(containers pod).isEmpty && (containers pod).all containerReady

def name (pod : Value) : String :=
  ((pod.pointer? "/metadata/name").bind Value.asString?).getD ""

def ofList (output : String) : Except Error (List Value) :=
  match Json.parse output with
  | .error message => .error (.decode "pod list" message)
  | .ok document =>
    match (document.member? "items").bind Value.asArray? with
    | some pods => .ok pods
    | none => .error (.decode "pod list" "missing items")

def unready (pods : List Value) : List String :=
  (pods.filter fun pod => !isReady pod).map name

end Settle.Pods
