import Settle.Duration
import Settle.Json.Value
import Settle.Text.Quoted

/-!
# Policies

A policy bounds a wait: the interval between two looks at the cluster, and the time after which the
wait gives up. In documents both are given in seconds.
-/

namespace Settle

open Json (Value)

/-- The interval between looks and the time after which a wait gives up. -/
structure Policy where
  interval : Duration
  timeout : Duration
  deriving DecidableEq, Repr, Inhabited

namespace Policy

def ofSecs (interval timeout : Nat) : Policy := ⟨.ofSecs interval, .ofSecs timeout⟩

def applyRetry : Policy := ofSecs 3 15

def resource : Policy := ofSecs 3 180

def cluster : Policy := ofSecs 60 720

def immediate : Policy := ofSecs 0 0

/-- No pause is shorter than this, except one cut off by the deadline. -/
def minPause : Duration := .ofMillis 10

/-- The pause between two looks that the deadline does not cut off. -/
def pause (p : Policy) : Duration := max p.interval minPause

/-- How many pauses fit into the timeout, the last one perhaps cut off. -/
def pauses (p : Policy) : Nat := (p.timeout + p.pause - 1) / p.pause

theorem pause_pos (p : Policy) : 0 < p.pause :=
  Nat.lt_of_lt_of_le (by decide) (Nat.le_max_right p.interval minPause)

end Policy

/-- The policies that a configuration can tune. -/
structure PolicySet where
  applyRetry : Policy := .applyRetry
  resource : Policy := .resource
  cluster : Policy := .cluster
  deriving DecidableEq, Repr, Inhabited

/-! ## Reading policies from JSON -/

/-- Why a document is no policy. -/
inductive SettingFault where
  | wrongType (found expected : String)
  | wrongLength (found : Nat) (expected : String)
  | missing (field : String)
  | duration (cause : Duration.Fault)
  deriving DecidableEq, Repr

def SettingFault.message : SettingFault → String
  | .wrongType found expected => "invalid type: " ++ found ++ ", expected " ++ expected
  | .wrongLength found expected =>
    "invalid length " ++ toString found ++ ", expected " ++ expected
  | .missing field => "missing field `" ++ field ++ "`"
  | .duration cause => cause.message

/-- A value in words, for a fault. Of arrays and objects only the type is named. -/
def describe : Value → String
  | .null => "null"
  | .bool b => "boolean `" ++ (if b then "true" else "false") ++ "`"
  | .number (.whole n) => "integer `" ++ toString n ++ "`"
  | .number (.real r) => "floating point `" ++ r.render { plain := none, keepPoint := true } ++ "`"
  | .string s => "string " ++ Text.quote s
  | .array _ => "sequence"
  | .object _ => "map"

def secondsOfJson : Value → Except SettingFault Duration
  | .number n =>
    let seconds := match n with
      | .whole (.ofNat n) => Number.Binary64.ofNat n
      | .whole (.negSucc n) => (Number.Binary64.ofNat (n + 1)).neg
      | .real r => r
    (Duration.ofBinary64 seconds).mapError .duration
  | v => .error (.wrongType (describe v) "f64")

/-- The field of a required member once all present members have been read. -/
def required {α : Type} (field : String) : Option α → Except SettingFault α
  | some a => .ok a
  | none => .error (.missing field)

/-- Reads a policy from an object with members `interval` and `timeout`, or from an array of these
two. Present members are read in order before a missing one is reported. -/
def Policy.ofJson : Value → Except SettingFault Policy
  | .object members => do
    let interval ← (members.lookup "interval").mapM secondsOfJson
    let timeout ← (members.lookup "timeout").mapM secondsOfJson
    return ⟨← required "interval" interval, ← required "timeout" timeout⟩
  | .array [] => .error (.wrongLength 0 "struct PollPolicy with 2 elements")
  | .array [interval] => do
    let _ ← secondsOfJson interval
    .error (.wrongLength 1 "struct PollPolicy with 2 elements")
  | .array (interval :: timeout :: rest) => do
    let p : Policy := ⟨← secondsOfJson interval, ← secondsOfJson timeout⟩
    if rest.isEmpty then return p
    else .error (.wrongLength (rest.length + 2) "fewer elements in array")
  | v => .error (.wrongType (describe v) "struct PollPolicy")

/-- Reads a policy that keeps a default when it is absent. -/
def Policy.ofJson? (default : Policy) : Option Value → Except SettingFault Policy
  | none => .ok default
  | some v => Policy.ofJson v

def PolicySet.ofJson : Value → Except SettingFault PolicySet
  | .object members => do
    let applyRetry ← Policy.ofJson? .applyRetry (members.lookup "apply_retry")
    let cluster ← Policy.ofJson? .cluster (members.lookup "cluster")
    let resource ← Policy.ofJson? .resource (members.lookup "resource")
    return { applyRetry, resource, cluster }
  | .array items => do
    let applyRetry ← Policy.ofJson? .applyRetry items[0]?
    let resource ← Policy.ofJson? .resource items[1]?
    let cluster ← Policy.ofJson? .cluster items[2]?
    if items.length ≤ 3 then return { applyRetry, resource, cluster }
    else .error (.wrongLength items.length "fewer elements in array")
  | v => .error (.wrongType (describe v) "struct PolicySet")

def Duration.toJson (d : Duration) : Value := .number (.real d.toBinary64)

def Policy.toJson (p : Policy) : Value :=
  .object [("interval", p.interval.toJson), ("timeout", p.timeout.toJson)]

def PolicySet.toJson (s : PolicySet) : Value :=
  .object [("apply_retry", s.applyRetry.toJson), ("cluster", s.cluster.toJson),
    ("resource", s.resource.toJson)]

end Settle
