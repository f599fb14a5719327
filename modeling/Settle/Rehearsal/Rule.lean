import Settle.Duration

/-!
# Rules for rehearsals

A rehearsal answers commands by a list of rules instead of a cluster. The first rule that fits a
command and has replies left answers it.
-/

namespace Settle.Rehearsal

/-- A reply for the commands that fit: those with the given verb, with the given text among their
arguments, and within the given time. What is not given does not matter. -/
structure Rule (α : Type) where
  verb : Option String := none
  argument : Option String := none
  fromTime : Option Duration := none
  untilTime : Option Duration := none
  /-- How often the rule still answers, if that is limited. -/
  left : Option Nat := none
  reply : α

namespace Rule

variable {α : Type}

def fits (r : Rule α) (now : Duration) (verb : String) (args : List String) : Bool :=
  (r.verb.map (· == verb)).getD true
    && (r.argument.map args.contains).getD true
    && (r.fromTime.map fun t => decide (t ≤ now)).getD true
    && (r.untilTime.map fun t => decide (now < t)).getD true
    && (r.left.map fun n => decide (0 < n)).getD true

def spend (r : Rule α) : Rule α := { r with left := r.left.map (· - 1) }

/-- The reply to a command, if a rule fits, and the rules after it. -/
def answer (now : Duration) (verb : String) (args : List String) :
    List (Rule α) → Option α × List (Rule α)
  | [] => (none, [])
  | r :: rest =>
    if r.fits now verb args then (some r.reply, r.spend :: rest)
    else
      let (found, rest) := answer now verb args rest
      (found, r :: rest)

end Rule

end Settle.Rehearsal
