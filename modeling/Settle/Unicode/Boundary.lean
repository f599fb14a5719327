import Settle.Unicode.Grapheme

/-!
# Classes of words and sentences

The classes of code points by which texts are cut into words and into sentences.
-/

namespace Settle.Unicode

def midLetter : CharSet := readRanges "3a b7 387 55f 5f4 2027 fe13 fe55 ff1a"

def midNumLet : CharSet := readRanges "2e 2018-2019 2024 fe52 ff07 ff0e"

def midNum : CharSet :=
  readRanges "2c 3b 37e 589 60c-60d 66c 7f8 2044 fe10 fe14 fe50 fe54 ff0c ff1b"

def katakana : CharSet := readRanges <| String.join
  ["3031-3035 309b-309c 30a0-30fa 30fc-30ff 31f0-31ff 32d0-32fe 3300-3357 ff66-ff9d 1aff0-1aff3 ",
   "1aff5-1affb 1affd-1affe 1b000 1b120-1b122 1b155 1b164-1b167"]

def hebrewLetters : CharSet := readRanges <| String.join
  ["5d0-5ea 5ef-5f2 fb1d fb1f-fb28 fb2a-fb36 fb38-fb3c fb3e fb40-fb41 ",
   "fb43-fb44 fb46-fb4f"]

/-- Letters of scripts that are written without blanks between words. -/
def unspacedLetters : CharSet := readRanges <| String.join
  ["e01-e30 e32-e33 e40-e46 e81-e82 e84 e86-e8a e8c-ea3 ea5 ea7-eb0 eb2-eb3 ebd ec0-ec4 ec6 ",
   "edc-edf 1000-102a 103f 1050-1055 105a-105d 1061 1065-1066 106e-1070 1075-1081 108e 1780-17b3 ",
   "17d7 17dc 1950-196d 1970-1974 1980-19ab 19b0-19c9 1a20-1a54 1aa7 a9e0-a9e4 a9e6-a9ef ",
   "a9fa-a9fe aa60-aa76 aa7a aa7e-aaaf aab1 aab5-aab6 aab9-aabd aac0 aac2 aadb-aadd 11700-1171a ",
   "11740-11746"]

def furtherLetters : CharSet := readRanges <| String.join
  ["2c2-2c5 2d2-2d7 2de-2df 2e5-2eb 2ed 2ef-2ff 55a-55c 55e 58a 5f3 70f a708-a716 a720-a721 ",
   "a789-a78a ab5b"]

def furtherNumeric : CharSet := readRanges "600-605 66b 6dd 890-891 8e2 110bd 110cd"

def wordExtend : CharSet :=
  (CharSet.unions [graphemeExtend, inCategories ["Mc"], emojiModifier]).diff (.single 0x200D)

def wordLetters : CharSet :=
  (alphabetic.diff (.unions [ideographic, katakana, hebrewLetters, wordExtend, inScript "Hira",
    unspacedLetters])).union furtherLetters

def wordClasses : List (String × String × CharSet) :=
  [("CR", "CR", .single 0x0D),
   ("DQ", "Double_Quote", .single 0x22),
   ("EX", "ExtendNumLet", (inCategories ["Pc"]).union (.single 0x202F)),
   ("Extend", "Extend", wordExtend),
   ("FO", "Format", (inCategories ["Cf"]).diff
     ((readRanges "200b-200d e0020-e007f").union prependedConcatenationMark)),
   ("HL", "Hebrew_Letter", hebrewLetters),
   ("KA", "Katakana", katakana),
   ("LE", "ALetter", wordLetters),
   ("LF", "LF", .single 0x0A),
   ("MB", "MidNumLet", midNumLet),
   ("ML", "MidLetter", midLetter),
   ("MN", "MidNum", midNum),
   ("NL", "Newline", readRanges "b-c 85 2028-2029"),
   ("NU", "Numeric", (digits.union furtherNumeric).diff (.single 0x66C)),
   ("RI", "Regional_Indicator", regionalIndicator),
   ("SQ", "Single_Quote", .single 0x27),
   ("WSegSpace", "WSegSpace", readRanges "20 1680 2000-2006 2008-200a 205f 3000"),
   ("ZWJ", "ZWJ", .single 0x200D)]

def clauseMarks : CharSet := readRanges <| String.join
  ["2c-2d 3a-3b 37e 55d 60c-60d 7f8 1802 1808 2013-2014 3001 fe10-fe11 fe13-fe14 fe31-fe32 ",
   "fe50-fe51 fe54-fe55 fe58 fe63 ff0c-ff0d ff1a-ff1b ff64"]

/-- Quotes that are not brackets or quotation marks by category. -/
def furtherQuotes : CharSet := readRanges "22 27 275b-2760 2e00-2e01 2e06-2e08 2e0b 1f676-1f678"

def fullStops : CharSet := readRanges "2e 2024 fe52 ff0e"

def sentenceEnds : CharSet := sentenceTerminal.diff fullStops

def sentenceExtend : CharSet :=
  .unions [graphemeExtend, inCategories ["Mc"], .single 0x200D]

def sentenceLower : CharSet := lowercase.diff (graphemeExtend.union georgian)

def sentenceUpper : CharSet :=
  ((inCategories ["Lt"]).union uppercase).diff (readRanges "1c90-1cba 1cbd-1cbf")

def sentenceClasses : List (String × String × CharSet) :=
  [("AT", "ATerm", fullStops),
   ("CL", "Close", ((inCategories ["Ps", "Pe", "Pi", "Pf"]).union furtherQuotes).diff
     (.unions [fullStops, sentenceEnds, .single 0x5F3])),
   ("CR", "CR", .single 0x0D),
   ("EX", "Extend", sentenceExtend),
   ("FO", "Format", (inCategories ["Cf"]).diff
     ((readRanges "200c-200d e0020-e007f").union furtherNumeric)),
   ("LE", "OLetter", (alphabetic.union (.single 0x5F3)).diff
     (.unions [sentenceLower, sentenceUpper, sentenceExtend])),
   ("LF", "LF", .single 0x0A),
   ("LO", "Lower", sentenceLower),
   ("NU", "Numeric", .unions [digits, furtherNumeric, .single 0x66C]),
   ("SC", "SContinue", clauseMarks),
   ("SE", "Sep", readRanges "85 2028-2029"),
   ("SP", "Sp", readRanges "9 b-c 20 a0 1680 2000-200a 202f 205f 3000"),
   ("ST", "STerm", sentenceEnds),
   ("UP", "Upper", sentenceUpper)]

end Settle.Unicode
