import Settle.Association
import Settle.Number.Binary64

/-!
# JSON values

Numbers that fit in 64 bits, with or without sign, stay whole; all others are binary64. The members
of an object are sorted by key, each key once.
-/

namespace Settle.Json

open Number (Binary64)

/-- A JSON number: a whole one is kept exactly. -/
inductive Numeral where
  | whole (value : Int)
  | real (value : Binary64)
  deriving DecidableEq, Repr

inductive Value where
  | null
  | bool (value : Bool)
  | number (value : Numeral)
  | string (value : String)
  | array (items : List Value)
  | object (members : List (String × Value))
  deriving Repr, Inhabited

namespace Value

def ofNat (n : Nat) : Value := .number (.whole n)

/-- An object with the given members, the last one of a key winning. -/
def ofMembers (members : List (String × Value)) : Value :=
  .object (Association.ofPairs members)

def member? (key : String) : Value → Option Value
  | .object members => members.lookup key
  | _ => none

def asString? : Value → Option String
  | .string s => some s
  | _ => none

def asArray? : Value → Option (List Value)
  | .array items => some items
  | _ => none

def asBool? : Value → Option Bool
  | .bool b => some b
  | _ => none

def asNat? : Value → Option Nat
  | .number (.whole n) => if 0 ≤ n ∧ n.toNat < Nat.pow 2 64 then some n.toNat else none
  | _ => none

end Value

end Settle.Json
