import Settle.Wait

/-!
# Clients

A client is an account together with the choice whether its waits and submissions heed the session's
cancellation. All clients of a session share its cluster.
-/

namespace Settle

structure Client where
  account : Account := .admin
  cancellable : Bool := false
  deriving DecidableEq, Repr

namespace Client

def withAccount (c : Client) (account : Account) : Client := { c with account }

def withCancellation (c : Client) : Client := { c with cancellable := true }

def accountLabel : Account → String
  | .admin => "Admin"
  | .user => "User"

def text (c : Client) : String :=
  "Client \x7b identity: " ++ accountLabel c.account ++ ", cancellable: "
    ++ (if c.cancellable then "true" else "false") ++ ", .. \x7d"

def command (c : Client) (verb : Verb) (scope : Option String) (args : List String) : Invocation :=
  { verb, account := c.account, scope, args }

def pace (c : Client) (policy : Policy) : Pace := ⟨policy, c.cancellable⟩

end Client

end Settle
