import Settle.Unicode.Boundary
import Settle.Unicode.Identifier

/-!
# Properties

The properties that are true or false of a code point, by their names.
-/

namespace Settle.Unicode

def otherMath : CharSet := readRanges <| String.join
  ["5e 3d0-3d2 3d5 3f0-3f1 3f4-3f5 2016 2032-2034 2040 2061-2064 207d-207e 208d-208e 20d0-20dc ",
   "20e1 20e5-20e6 20eb-20ef 2102 2107 210a-2113 2115 2119-211d 2124 2128-2129 212c-212d ",
   "212f-2131 2133-2138 213c-213f 2145-2149 2195-2199 219c-219f 21a1-21a2 21a4-21a5 21a7 ",
   "21a9-21ad 21b0-21b1 21b6-21b7 21bc-21cd 21d0-21d1 21d3 21d5-21db 21dd 21e4-21e5 2308-230b ",
   "23b4-23b5 23b7 23d0 23e2 25a0-25a1 25ae-25b6 25bc-25c0 25c6-25c7 25ca-25cb 25cf-25d3 25e2 ",
   "25e4 25e7-25ec 2605-2606 2640 2642 2660-2663 266d-266e 27c5-27c6 27e6-27ef 2983-2998 ",
   "29d8-29db 29fc-29fd fe61 fe63 fe68 ff3c ff3e 1d400-1d454 1d456-1d49c 1d49e-1d49f 1d4a2 ",
   "1d4a5-1d4a6 1d4a9-1d4ac 1d4ae-1d4b9 1d4bb 1d4bd-1d4c3 1d4c5-1d505 1d507-1d50a 1d50d-1d514 ",
   "1d516-1d51c 1d51e-1d539 1d53b-1d53e 1d540-1d544 1d546 1d54a-1d550 1d552-1d6a5 1d6a8-1d6c0 ",
   "1d6c2-1d6da 1d6dc-1d6fa 1d6fc-1d714 1d716-1d734 1d736-1d74e 1d750-1d76e 1d770-1d788 ",
   "1d78a-1d7a8 1d7aa-1d7c2 1d7c4-1d7cb 1d7ce-1d7ff 1ee00-1ee03 1ee05-1ee1f 1ee21-1ee22 1ee24 ",
   "1ee27 1ee29-1ee32 1ee34-1ee37 1ee39 1ee3b 1ee42 1ee47/1ee4b 1ee4d-1ee4f 1ee51-1ee52 1ee54 ",
   "1ee57/1ee5f 1ee61-1ee62 1ee64 1ee67-1ee6a 1ee6c-1ee72 1ee74-1ee77 1ee79-1ee7c 1ee7e ",
   "1ee80-1ee89 1ee8b-1ee9b 1eea1-1eea3 1eea5-1eea9 1eeab-1eebb"]

def math : CharSet := (inCategories ["Sm"]).union otherMath

def caseIgnorable : CharSet :=
  .unions [inCategories ["Mn", "Me", "Cf", "Lm", "Sk"], midLetter, midNumLet, .single 0x27]

/-- The properties, by short and long name; a few have one name only. -/
def properties : List (String × String × CharSet) :=
  [("Alpha", "Alphabetic", alphabetic), ("AHex", "ASCII_Hex_Digit", asciiHexDigit),
   ("Bidi_C", "Bidi_Control", bidiControl), ("CI", "Case_Ignorable", caseIgnorable),
   ("Cased", "Cased", cased), ("CWCF", "Changes_When_Casefolded", changesWhenCasefolded),
   ("CWCM", "Changes_When_Casemapped", changesWhenCasemapped),
   ("CWL", "Changes_When_Lowercased", changesWhenLowercased),
   ("CWT", "Changes_When_Titlecased", changesWhenTitlecased),
   ("CWU", "Changes_When_Uppercased", changesWhenUppercased), ("Dash", "Dash", dash),
   ("DI", "Default_Ignorable_Code_Point", defaultIgnorable), ("Dep", "Deprecated", deprecatedChars),
   ("Dia", "Diacritic", diacritic), ("Emoji", "Emoji", emoji),
   ("EComp", "Emoji_Component", emojiComponent), ("EMod", "Emoji_Modifier", emojiModifier),
   ("EBase", "Emoji_Modifier_Base", emojiModifierBase),
   ("EPres", "Emoji_Presentation", emojiPresentation),
   ("ExtPict", "Extended_Pictographic", extendedPictographic), ("Ext", "Extender", extender),
   ("Gr_Base", "Grapheme_Base", graphemeBase), ("Gr_Ext", "Grapheme_Extend", graphemeExtend),
   ("Gr_Link", "Grapheme_Link", graphemeLink), ("Hex", "Hex_Digit", hexDigits),
   ("Hyphen", "Hyphen", hyphen),
   ("ID_Compat_Math_Continue", "ID_Compat_Math_Continue", idCompatMathContinue),
   ("ID_Compat_Math_Start", "ID_Compat_Math_Start", idCompatMathStart),
   ("IDC", "ID_Continue", idContinue), ("IDS", "ID_Start", idStart),
   ("Ideo", "Ideographic", ideographic), ("IDSB", "IDS_Binary_Operator", idsBinaryOperator),
   ("IDST", "IDS_Trinary_Operator", idsTrinaryOperator),
   ("IDSU", "IDS_Unary_Operator", idsUnaryOperator), ("Join_C", "Join_Control", joinControl),
   ("LOE", "Logical_Order_Exception", logicalOrderException), ("Lower", "Lowercase", lowercase),
   ("Math", "Math", math), ("MCM", "Modifier_Combining_Mark", modifierCombiningMark),
   ("NChar", "Noncharacter_Code_Point", noncharacter),
   ("OAlpha", "Other_Alphabetic", otherAlphabetic),
   ("ODI", "Other_Default_Ignorable_Code_Point", otherDefaultIgnorable),
   ("OGr_Ext", "Other_Grapheme_Extend", otherGraphemeExtend),
   ("OIDC", "Other_ID_Continue", otherIdContinue), ("OIDS", "Other_ID_Start", otherIdStart),
   ("OLower", "Other_Lowercase", otherLowercase), ("OMath", "Other_Math", otherMath),
   ("OUpper", "Other_Uppercase", otherUppercase), ("Pat_Syn", "Pattern_Syntax", patternSyntax),
   ("Pat_WS", "Pattern_White_Space", patternWhiteSpace),
   ("PCM", "Prepended_Concatenation_Mark", prependedConcatenationMark),
   ("QMark", "Quotation_Mark", quotationMark), ("Radical", "Radical", radical),
   ("RI", "Regional_Indicator", regionalIndicator),
   ("STerm", "Sentence_Terminal", sentenceTerminal), ("SD", "Soft_Dotted", softDotted),
   ("Term", "Terminal_Punctuation", terminalPunctuation),
   ("UIdeo", "Unified_Ideograph", unifiedIdeograph), ("Upper", "Uppercase", uppercase),
   ("VS", "Variation_Selector", variationSelector), ("WSpace", "White_Space", blanks),
   ("XIDC", "XID_Continue", xidContinue), ("XIDS", "XID_Start", xidStart)]

end Settle.Unicode
