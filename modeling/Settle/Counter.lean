import Settle.Error
import Settle.Number.Reading
import Settle.Text.Blank
import Settle.Text.Quoted

/-!
# Counters

Counters of replicas are printed as 32-bit numbers, and as nothing when they are absent.
-/

namespace Settle

def counterLimit : Nat := Nat.pow 2 32

/-- Reads a counter, with blanks around it or absent; `what` names it in errors. -/
def readCounter (value what : String) : Except Error Nat :=
  let digits := Text.trim value
  if digits.isEmpty then .ok 0
  else
    match Number.readNat counterLimit digits with
    | .ok n => .ok n
    | .error e => .error (.decode what (Text.quote digits ++ ": " ++ e.message))

end Settle
