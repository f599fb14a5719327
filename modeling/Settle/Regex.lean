import Settle.Regex.Expression
import Settle.Regex.Matching
import Settle.Regex.Size

/-!
# Regular expressions

A regular expression is read from its source once and then tells of texts whether it matches
somewhere in them. It is refused if it is malformed or too large.
-/

namespace Settle

/-- A regular expression: its source, and the test whether it matches somewhere in a text. -/
structure Regex where
  source : String
  accepts : String → Bool

/-- Reads a regular expression, unless it is malformed or too large. -/
def Regex.compile? (source : String) : Option Regex :=
  (Regex.read? source).bind fun p =>
    if p.fits then some ⟨source, fun text => p.occursIn text.toList⟩ else none

end Settle
