import Settle.Number.Reading
import Settle.Regex.Pattern
import Settle.Unicode.ClassName

/-!
# Symbols

The smallest parts of a regular expression: characters and escapes, under the flags in force. An
escape stands for a character, a set of characters or a condition on a position. What is malformed,
or would match parts of a character without Unicode, is refused.

Readers take the characters that are left and give what they read together with what is left then.
-/

namespace Settle.Regex

open Settle.Unicode (CharSet)

/-- The flags in force: ignoring case, lines for `^` and `$`, a dot that matches line feeds,
carriage returns as line ends, Unicode classes, blanks without meaning, and repetitions that try few
turns first. -/
structure Flags where
  fold : Bool := false
  lines : Bool := false
  dotAll : Bool := false
  crlf : Bool := false
  unicode : Bool := true
  verbose : Bool := false
  swap : Bool := false
  deriving DecidableEq, Repr

/-- Drops blanks and comments; `inComment` tells whether a comment has begun, which goes on to the
end of the line. -/
def dropBlanks (inComment : Bool) : List Char → List Char
  | [] => []
  | c :: cs =>
    if inComment then dropBlanks (c != '\n') cs
    else if Text.isBlank c then dropBlanks false cs
    else if c = '#' then dropBlanks true cs
    else c :: cs

def skip (f : Flags) (cs : List Char) : List Char := if f.verbose then dropBlanks false cs else cs

/-- The next character that is no blank, where a number sign is passed over once. -/
def nextMark (passed : Bool) : List Char → Option Char
  | [] => none
  | c :: cs =>
    if Text.isBlank c then nextMark passed cs
    else if c = '#' ∧ !passed then nextMark true cs
    else some c

/-- The character that decides what a hyphen means: the next one, or the next that is no blank. -/
def peek (f : Flags) (cs : List Char) : Option Char :=
  if f.verbose then (nextMark false cs).or cs.head? else cs.head?

def charOf? (n : Nat) : Option Char := if n.isValidChar then some (Char.ofNat n) else none

/-- Reads a fixed number of hexadecimal digits, between which there may be blanks. -/
def readDigits (f : Flags) (n : Nat) : (places : Nat) → List Char → Option (Nat × List Char)
  | 0, cs => some (n, cs)
  | places + 1, cs =>
    match skip f cs with
    | [] => none
    | c :: cs =>
      match Unicode.hexDigit? c with
      | some d => readDigits f (n * 16 + d) places cs
      | none => none

/-- The characters up to a closing brace, without blanks, and what comes after the brace. The list
of characters is that after blanks. -/
def readBraced (f : Flags) : (fuel : Nat) → List Char → Option (List Char × List Char)
  | 0, _ => none
  | fuel + 1, cs =>
    match skip f cs with
    | [] => none
    | c :: cs =>
      if c = '\x7d' then some ([], cs)
      else (readBraced f fuel cs).map fun (inner, rest) => (c :: inner, rest)

/-- What stands in braces, the opening one being read, without blanks. -/
def braced (f : Flags) (cs : List Char) : Option (List Char × List Char) :=
  readBraced f (cs.length + 1) cs

/-- The number that hexadecimal digits denote, if all are digits and it is small enough for a
code point. -/
def hexNumber? (cs : List Char) : Option Nat :=
  if cs.isEmpty then none
  else cs.foldlM (fun n c => do
    let d ← Unicode.hexDigit? c
    if n < 0x1000000 then some (n * 16 + d) else none) 0

/-! ## Sets with a name -/

def asciiDigits : CharSet := .range 0x30 0x39

def asciiBlanks : CharSet := .ofRanges [(0x09, 0x0D), (0x20, 0x20)]

def asciiWords : CharSet := .ofRanges [(0x30, 0x39), (0x41, 0x5A), (0x5F, 0x5F), (0x61, 0x7A)]

def foldSet (f : Flags) (s : CharSet) : CharSet :=
  if !f.fold then s else if f.unicode then s.folded else s.foldedAscii

/-- The complement of a set. Without Unicode it would match parts of characters. -/
def negate? (f : Flags) (negated : Bool) (s : CharSet) : Option CharSet :=
  if negated && !f.unicode then none else some (s.negateIf negated)

def shortClass? (f : Flags) (c : Char) : Option CharSet :=
  let s? := match c.toLower with
    | 'd' => some (if f.unicode then Unicode.digits else asciiDigits)
    | 's' => some (if f.unicode then Unicode.blanks else asciiBlanks)
    | 'w' => some (if f.unicode then Unicode.wordChars else asciiWords)
    | _ => none
  s?.bind (negate? f c.isUpper)

def namedClass? (f : Flags) (negated : Bool) (name : List Char) : Option CharSet :=
  if !f.unicode then none
  else (Unicode.class? name).map fun (s, inverse) => (foldSet f s).negateIf (xor negated inverse)

/-- Reads a Unicode class after `\p` or `\P`: a name in braces, or one letter. -/
def readNamedClass (f : Flags) (negated : Bool) (cs : List Char) :
    Option (CharSet × List Char) :=
  match skip f cs with
  | [] => none
  | '\x7b' :: cs => do
    let (name, rest) ← braced f cs
    return (← namedClass? f negated name, rest)
  | c :: cs =>
    if c = '\\' then none else (namedClass? f negated [c]).map (·, cs)

/-! ## Escapes -/

inductive Symbol where
  /-- A character, and whether it was written as the value of an octet. -/
  | char (c : Char) (octet : Bool)
  | set (s : CharSet)
  | look (l : Look)

def isMeta (c : Char) : Bool := "\\.+*?()|[]\x7b\x7d^$#&-~".toList.contains c

def isEscapable (c : Char) : Bool :=
  isMeta c || (c.toNat < 128 && !c.isAlphanum && c != '<' && c != '>')

def controlEscape? (c : Char) : Option Char :=
  match c with
  | 'a' => some '\x07'
  | 'f' => some '\x0c'
  | 't' => some '\t'
  | 'n' => some '\n'
  | 'r' => some '\r'
  | 'v' => some '\x0b'
  | _ => none

/-- Reads a code point after `\x`, `\u` or `\U`, which has a fixed number of digits unless it stands
in braces. -/
def readCode (f : Flags) (letter : Char) (cs : List Char) : Option (Symbol × List Char) :=
  match skip f cs with
  | '\x7b' :: cs => do
    let (digits, rest) ← braced f cs
    return (.char (← charOf? (← hexNumber? digits)) false, rest)
  | cs => do
    let places := if letter = 'x' then 2 else if letter = 'u' then 4 else 8
    let (n, rest) ← readDigits f 0 places cs
    return (.char (← charOf? n) (letter = 'x'), rest)

def wordCondition? (ascii : Bool) (name : List Char) : Option Look :=
  match String.ofList name with
  | "start" => some (.wordStart ascii)
  | "end" => some (.wordEnd ascii)
  | "start-half" => some (.wordStartHalf ascii)
  | "end-half" => some (.wordEndHalf ascii)
  | _ => none

/-- Reads what follows `\b`: the name of a condition in braces, if the brace is followed by a letter
or a hyphen. -/
def readBoundary (f : Flags) (cs : List Char) : Option (Symbol × List Char) :=
  match cs with
  | '\x7b' :: inner =>
    match skip f inner with
    | [] => none
    | c :: _ =>
      if c.isAlpha ∨ c = '-' then do
        let (name, rest) ← braced f inner
        return (.look (← wordCondition? (!f.unicode) name), rest)
      else some (.look (.wordBoundary (!f.unicode)), cs)
  | _ => some (.look (.wordBoundary (!f.unicode)), cs)

def readEscape (f : Flags) : List Char → Option (Symbol × List Char)
  | [] => none
  | c :: cs =>
    if "xuU".toList.contains c then readCode f c cs
    else if c = 'p' ∨ c = 'P' then
      (readNamedClass f (c = 'P') cs).map fun (s, rest) => (.set s, rest)
    else if "dswDSW".toList.contains c then (shortClass? f c).map fun s => (.set s, cs)
    else if isEscapable c then some (.char c false, cs)
    else match c with
      | 'A' => some (.look .startText, cs)
      | 'z' => some (.look .endText, cs)
      | 'b' => readBoundary f cs
      | 'B' => some (.look (.noWordBoundary (!f.unicode)), cs)
      | '<' => some (.look (.wordStart (!f.unicode)), cs)
      | '>' => some (.look (.wordEnd (!f.unicode)), cs)
      | c => (controlEscape? c).map fun c => (.char c false, cs)

/-! ## Single characters -/

def isLoneOctet (f : Flags) (c : Char) (octet : Bool) : Bool :=
  octet && !f.unicode && 128 ≤ c.toNat

/-- A character as a pattern, with its case variants when case is ignored. -/
def charPattern? (f : Flags) (c : Char) (octet : Bool) : Option Pattern :=
  if isLoneOctet f c octet then none
  else some (.ofSet (foldSet f (.single c.toNat)))

/-- The dot: any character but line ends. Without Unicode it would match parts of characters. -/
def dot? (f : Flags) : Option CharSet :=
  if !f.unicode then none
  else if f.dotAll then some .full
  else if f.crlf then some (CharSet.ofRanges [(0x0A, 0x0A), (0x0D, 0x0D)]).compl
  else some (CharSet.single 0x0A).compl

def caret (f : Flags) : Look :=
  if f.lines then if f.crlf then .startLineCrlf else .startLine else .startText

def dollar (f : Flags) : Look :=
  if f.lines then if f.crlf then .endLineCrlf else .endLine else .endText

end Settle.Regex
