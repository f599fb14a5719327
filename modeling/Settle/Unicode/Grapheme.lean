import Settle.Unicode.Letter
import Settle.Unicode.Listed
import Settle.Unicode.Script

/-!
# Graphemes

What is read as one character may be written with several code points. Here are the properties that
tell which code points join the one before, and the classes by which texts are cut into graphemes.
-/

namespace Settle.Unicode

/-- Code points that extend a grapheme and are not marks of the categories `Mn` and `Me`. -/
def otherGraphemeExtend : CharSet := readRanges <| String.join
  ["9be 9d7 b3e b57 bbe bd7 cc0 cc2 cc7-cc8 cca-ccb cd5-cd6 d3e d57 dcf ddf 1715 1734 1b35 1b3b ",
   "1b3d 1b43-1b44 1baa 1bf2-1bf3 200c 302e-302f a953 a9c0 ff9e-ff9f 111c0 11235 1133e 1134d ",
   "11357 113b8 113c2 113c5 113c7-113c9 113cf 114b0 114bd 115af 116b6 11930 1193d 11f41 ",
   "16ff0-16ff1 1d165-1d166 1d16d-1d172 e0020-e007f"]

/-- The property `Grapheme_Extend`: the character joins the one before it. -/
def graphemeExtend : CharSet := (inCategories ["Mn", "Me"]).union otherGraphemeExtend

def graphemeBase : CharSet :=
  ((inCategories ["Cc", "Cf", "Cs", "Co", "Cn", "Zl", "Zp"]).union graphemeExtend).compl

/-- Code points that do not show and are neither format characters nor variation selectors. -/
def otherDefaultIgnorable : CharSet := readRanges <| String.join
  ["34f 115f-1160 17b4-17b5 2065 3164 ffa0 fff0-fff8 e0000 e0002-e001f ",
   "e0080-e00ff e01f0-e0fff"]

def defaultIgnorable : CharSet :=
  (((inCategories ["Cf"]).union variationSelector).diff
    (.unions [blanks, readRanges "fff9-fffb 13430-13440", prependedConcatenationMark])).union
    otherDefaultIgnorable

def prepending : CharSet := readRanges <| String.join
  ["600-605 6dd 70f 890-891 8e2 d4e 110bd 110cd 111c2-111c3 113d1 1193f 11941 11a84-11a89 11d46 ",
   "11f02"]

def notSpacing : CharSet := readRanges <| String.join
  ["102b-102c 1038 1062-1064 1067-106d 1083 1087-108c 108f 109a-109c 1a61 1a63-1a64 aa7b aa7d ",
   "11720-11721"]

def hangulSyllables (closed : Bool) : CharSet :=
  let openOnes := (List.range 399).map fun i => 0xAC00 + 28 * i
  if closed then (CharSet.range 0xAC00 0xD7A3).diff (.ofAscending openOnes)
  else .ofAscending openOnes

def graphemeControl : CharSet :=
  ((inCategories ["Zl", "Zp", "Cc", "Cf"]).union
    ((inCategories ["Cn"]).inter defaultIgnorable)).diff
    ((readRanges "a d 200c 200d e0020-e007f").union prependedConcatenationMark)

def graphemeClasses : List (String × String × CharSet) :=
  [("CN", "Control", graphemeControl),
   ("CR", "CR", .single 0x0D),
   ("EX", "Extend", (graphemeExtend.union emojiModifier).diff (.single 0x200D)),
   ("L", "L", readRanges "1100-115f a960-a97c"),
   ("LF", "LF", .single 0x0A),
   ("LV", "LV", hangulSyllables false),
   ("LVT", "LVT", hangulSyllables true),
   ("PP", "Prepend", prepending),
   ("RI", "Regional_Indicator", regionalIndicator),
   ("SM", "SpacingMark", ((inCategories ["Mc"]).diff (graphemeExtend.union notSpacing)).union
     (readRanges "e33 eb3")),
   ("T", "T", readRanges "11a8-11ff d7cb-d7fb"),
   ("V", "V", readRanges "1160-11a7 d7b0-d7c6 16d63 16d67-16d6a"),
   ("ZWJ", "ZWJ", .single 0x200D)]

end Settle.Unicode
