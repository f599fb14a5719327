import Settle.Unicode.Letter
import Settle.Unicode.Listed

/-!
# Identifiers

The characters that names may start with and go on with. The variants that begin with `XID` leave
out what normalisation would turn into several characters of another kind.
-/

namespace Settle.Unicode

def otherIdStart : CharSet := readRanges "1885-1886 2118 212e 309b-309c"

def otherIdContinue : CharSet := readRanges "b7 387 1369-1371 19da 200c-200d 30fb ff65"

def idStart : CharSet :=
  ((inCategories ["Lu", "Ll", "Lt", "Lm", "Lo", "Nl"]).diff
    (patternSyntax.union patternWhiteSpace)).union otherIdStart

def idContinue : CharSet :=
  .unions [idStart, inCategories ["Mn", "Mc", "Nd", "Pc"], otherIdContinue]

def unstableIdContinue : CharSet :=
  readRanges "37a 309b-309c fc5e-fc63 fdfa-fdfb fe70 fe72 fe74 fe76 fe78 fe7a fe7c fe7e"

def xidStart : CharSet :=
  idStart.diff (unstableIdContinue.union (readRanges "e33 eb3 ff9e-ff9f"))

def xidContinue : CharSet := idContinue.diff unstableIdContinue

end Settle.Unicode
