/-!
# Lifecycle of an object

What a handle believes about its object: whether it was submitted, seen, deleted or gone. Events
move the belief. A failed wait for presence or absence only makes an unsettled belief indeterminate.
-/

namespace Settle

inductive Lifecycle where
  | unknown
  | pending
  | present
  | deleting
  | gone
  | indeterminate
  deriving DecidableEq, Repr

inductive LifecycleEvent where
  | submitted
  | appeared
  | deleteIssued
  | vanished
  | waitFailed
  deriving DecidableEq, Repr

namespace Lifecycle

def advance : Lifecycle → LifecycleEvent → Lifecycle
  | _, .submitted => .pending
  | _, .appeared => .present
  | _, .deleteIssued => .deleting
  | _, .vanished => .gone
  | .pending, .waitFailed => .indeterminate
  | .deleting, .waitFailed => .indeterminate
  | .indeterminate, .waitFailed => .indeterminate
  | .unknown, .waitFailed => .unknown
  | .present, .waitFailed => .present
  | .gone, .waitFailed => .gone

def isSettled : Lifecycle → Bool
  | .present | .gone => true
  | _ => false

def word : Lifecycle → String
  | .unknown => "unknown"
  | .pending => "pending"
  | .present => "present"
  | .deleting => "deleting"
  | .gone => "gone"
  | .indeterminate => "indeterminate"

end Lifecycle

end Settle
