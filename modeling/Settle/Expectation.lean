import Settle.Regex
import Settle.Text.Quoted
import Settle.Text.Search

/-!
# Expectations

What a wait demands of a projected text or of the number of objects.
-/

namespace Settle

inductive FieldExpectation where
  | equals (text : String)
  | differs (text : String)
  | contains (part : String)
  | lacks (part : String)
  | matching (regex : Regex)
  | nonBlank

namespace FieldExpectation

def holds : FieldExpectation → String → Bool
  | .equals text, value => value == text
  | .differs text, value => value != text
  | .contains part, value => Text.contains value part
  | .lacks part, value => !Text.contains value part
  | .matching regex, value => regex.accepts value
  | .nonBlank, value => !(Text.trim value).isEmpty

def text : FieldExpectation → String
  | .equals text => "== " ++ Text.quote text
  | .differs text => "!= " ++ Text.quote text
  | .contains part => "contains " ++ Text.quote part
  | .lacks part => "does not contain " ++ Text.quote part
  | .matching regex => "matches /" ++ regex.source ++ "/"
  | .nonBlank => "is non-empty"

end FieldExpectation

inductive CountExpectation where
  | exactly (count : Nat)
  | atLeast (count : Nat)
  | atMost (count : Nat)
  deriving DecidableEq, Repr

namespace CountExpectation

def holds : CountExpectation → Nat → Bool
  | .exactly n, count => count == n
  | .atLeast n, count => n ≤ count
  | .atMost n, count => count ≤ n

def text : CountExpectation → String
  | .exactly n => "exactly " ++ toString n
  | .atLeast n => "at least " ++ toString n
  | .atMost n => "at most " ++ toString n

end CountExpectation

end Settle
