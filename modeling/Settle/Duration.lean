import Settle.Number.Shortest

/-!
# Durations

Durations and instants are whole nanoseconds. Users give durations as seconds in binary64; the
exact value is rounded to the nearest nanosecond, a half to the even neighbour.
-/

namespace Settle

open Number (Binary64 nearest)

/-- Nanoseconds. -/
abbrev Duration := Nat

namespace Duration

def ofMillis (n : Nat) : Duration := n * 1000000

def ofSecs (n : Nat) : Duration := n * 1000000000

def wholeSecs (d : Duration) : Nat := d / 1000000000

/-- Why seconds are no duration. -/
inductive Fault where
  | negative
  | tooLarge
  deriving DecidableEq, Repr

def Fault.message : Fault → String
  | .negative => "cannot convert float seconds to Duration: value is negative"
  | .tooLarge => "cannot convert float seconds to Duration: value is either too big or NaN"

/-- Durations lie below this: whole seconds fit in 64 bits. -/
def limit : Duration := ofSecs (Nat.pow 2 64)

/-- The duration nearest to a number of seconds. Negative zero is zero. -/
def ofBinary64 : Binary64 → Except Fault Duration
  | .nan => .error .tooLarge
  | .infinite negative => .error (if negative then .negative else .tooLarge)
  | .finite negative m e =>
    if negative && m ≠ 0 then .error .negative
    else
      let (num, den) := Binary64.ratio m e
      let d := nearest (num * 1000000000) den
      if d < limit then .ok d else .error .tooLarge

/-- A duration as seconds: whole seconds and the fraction are rounded apart, then their sum. -/
def toBinary64 (d : Duration) : Binary64 :=
  (Binary64.ofNat (d / 1000000000)).addMagnitudes
    ((Binary64.ofNat (d % 1000000000)).div (Binary64.ofNat 1000000000))

end Duration

end Settle
