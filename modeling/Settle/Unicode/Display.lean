import Settle.Unicode.Additions
import Settle.Unicode.Grapheme

/-!
# Characters that show as themselves

Characters that are neither invisible nor would join the character before them.
-/

namespace Settle.Unicode

/-- Characters that do not show: those for control and format, for private use, unassigned ones,
separators other than the space, and those to be ignored where they are not known. -/
def invisible : CharSet :=
  ((inCategories ["Cc", "Cf", "Cs", "Co", "Cn", "Zl", "Zp", "Zs"]).diff
    ((CharSet.single 0x20).union Additions.assigned)).union defaultIgnorable

/-- Characters that join the one before, without the two halfwidth voice marks, which stand alone.
-/
def joining : CharSet :=
  (graphemeExtend.union Additions.graphemeExtend).diff (.range 0xFF9E 0xFF9F)

def visibleBounds : Array Nat := (invisible.union joining).compl.bounds.toArray

def isVisible (c : Char) : Bool :=
  if c.toNat < 127 then 32 ≤ c.toNat else isBetween visibleBounds c.toNat

end Settle.Unicode
