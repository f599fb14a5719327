import Settle.Json.Value
import Settle.Number.Reading
import Settle.Text.Utf8

/-!
# Reading JSON

The reader works on the bytes of a text. Every step takes what is left of the bytes and gives a
value with what is left after it, or a fault. A fault keeps the bytes after the place it is
reported at, so that line and column can be found at the end: the line is one more than the line
feeds before the place, and the column counts the bytes since the last of them.

Blanks are skipped before every token. The digits of a number are collected into 64 bits; what does
not fit there only raises the exponent, and the value is then scaled by powers of ten in binary64.
-/

namespace Settle.Json

open Number (Binary64)
open Settle.Text (Utf8.decode)

/-- Why a text is no JSON document. -/
inductive Reason where
  | eofValue | eofString | eofArray | eofObject
  | expectedValue | expectedIdent | expectedColon | expectedArrayEnd | expectedObjectEnd
  | trailingComma | trailingCharacters | keyNotString
  | invalidNumber | numberRange | invalidEscape | hexEscapeEnd | loneSurrogate
  | controlCharacter | tooDeep
  deriving DecidableEq, Repr

def Reason.message : Reason → String
  | .eofValue => "EOF while parsing a value"
  | .eofString => "EOF while parsing a string"
  | .eofArray => "EOF while parsing a list"
  | .eofObject => "EOF while parsing an object"
  | .expectedValue => "expected value"
  | .expectedIdent => "expected ident"
  | .expectedColon => "expected `:`"
  | .expectedArrayEnd => "expected `,` or `]`"
  | .expectedObjectEnd => "expected `,` or `\x7d`"
  | .trailingComma => "trailing comma"
  | .trailingCharacters => "trailing characters"
  | .keyNotString => "key must be a string"
  | .invalidNumber => "invalid number"
  | .numberRange => "number out of range"
  | .invalidEscape => "invalid escape"
  | .hexEscapeEnd => "unexpected end of hex escape"
  | .loneSurrogate => "lone leading surrogate in hex escape"
  | .controlCharacter => "control character (\\u0000-\\u001F) found while parsing a string"
  | .tooDeep => "recursion limit exceeded"

/-- A fault and the bytes that come after the place it is reported at. -/
structure Fault where
  reason : Reason
  after : List UInt8
  deriving DecidableEq, Repr

abbrev Parsed (α : Type) := α × List UInt8

/-- A fault reported at the next byte, or at the end when there is none. -/
def faultAt {α : Type} (reason : Reason) (rest : List UInt8) : Except Fault α :=
  .error ⟨reason, rest.drop 1⟩

def faultBefore {α : Type} (reason : Reason) (rest : List UInt8) : Except Fault α :=
  .error ⟨reason, rest⟩

def byte (c : Char) : UInt8 := c.toNat.toUInt8

def isSpace (b : UInt8) : Bool := b == 0x20 || b == 0x0A || b == 0x09 || b == 0x0D

def skipSpace (bytes : List UInt8) : List UInt8 := bytes.dropWhile isSpace

def isDigit (b : UInt8) : Bool := 0x30 ≤ b && b ≤ 0x39

def digitValue (b : UInt8) : Nat := b.toNat - 0x30

/-! ## Numbers -/

/-- Scales by a power of ten in binary64. Powers below `10 ^ -308` are divided out in two steps;
a number that is too large is refused. -/
def scale (significand : Nat) (exponent : Int) : Option Binary64 :=
  let f := Binary64.ofNat significand
  let apply (f : Binary64) (e : Int) : Option Binary64 :=
    if 0 ≤ e then
      let product := f.mul (Binary64.ofNat (Nat.pow 10 e.toNat))
      if product.isFinite then some product else none
    else some (f.div (Binary64.ofNat (Nat.pow 10 (-e).toNat)))
  if f.isZero then some f
  else if 308 < exponent then none
  else if -308 ≤ exponent then apply f exponent
  else
    let f := f.div (Binary64.ofNat (Nat.pow 10 308))
    if -616 ≤ exponent then if f.isZero then some f else apply f (exponent + 308)
    else some (.zero false)

def real (negative : Bool) (significand : Nat) (exponent : Int) (rest : List UInt8) :
    Except Fault (Parsed Numeral) :=
  match scale significand exponent with
  | none => faultBefore .numberRange rest
  | some f => .ok (.real (if negative then f.neg else f), rest)

def exponentLimit : Nat := Nat.pow 2 31 - 1

/-- Reads the digits of an exponent onto `e`. When they pass the limit the number is zero, if it is
small or zero anyway, or out of range. -/
def readExponentDigits (negative small : Bool) (significand : Nat) (start : Int) (e : Nat) :
    List UInt8 → Except Fault (Parsed Numeral)
  | [] => real negative significand (if small then start - e else start + e) []
  | b :: rest =>
    if isDigit b then
      if exponentLimit < e * 10 + digitValue b then
        if significand ≠ 0 && !small then faultBefore .numberRange rest
        else .ok (.real (.zero negative), rest.dropWhile isDigit)
      else readExponentDigits negative small significand start (e * 10 + digitValue b) rest
    else real negative significand (if small then start - e else start + e) (b :: rest)

def readExponent (negative : Bool) (significand : Nat) (start : Int) (bytes : List UInt8) :
    Except Fault (Parsed Numeral) :=
  let (small, bytes) := match bytes with
    | 0x2B :: rest => (false, rest)
    | 0x2D :: rest => (true, rest)
    | bytes => (false, bytes)
  match bytes with
  | [] => faultBefore .eofValue []
  | b :: rest =>
    if isDigit b then
      readExponentDigits negative small significand start (digitValue b) rest
    else faultBefore .invalidNumber rest

/-- What follows the digits of a number: an exponent, or its end. -/
def finishReal (negative : Bool) (significand : Nat) (exponent : Int) :
    List UInt8 → Except Fault (Parsed Numeral)
  | 0x65 :: rest => readExponent negative significand exponent rest
  | 0x45 :: rest => readExponent negative significand exponent rest
  | rest => real negative significand exponent rest

def overflows (significand : Nat) (digit : Nat) : Bool := Nat.pow 2 64 ≤ significand * 10 + digit

def readFraction (negative : Bool) (significand : Nat) (exponent : Int) (places : Nat) :
    List UInt8 → Except Fault (Parsed Numeral)
  | b :: rest =>
    if isDigit b then
      if overflows significand (digitValue b) then
        finishReal negative significand (exponent - places) (rest.dropWhile isDigit)
      else readFraction negative (significand * 10 + digitValue b) exponent (places + 1) rest
    else if places = 0 then faultAt .invalidNumber (b :: rest)
    else finishReal negative significand (exponent - places) (b :: rest)
  | [] =>
    if places = 0 then faultAt .eofValue [] else real negative significand (exponent - places) []

/-- Reads on when the digits before the point have left 64 bits: they only raise the exponent. -/
def readLong (negative : Bool) (significand : Nat) (exponent : Nat) :
    List UInt8 → Except Fault (Parsed Numeral)
  | b :: rest =>
    if isDigit b then readLong negative significand (exponent + 1) rest
    else if b == 0x2E then readFraction negative significand exponent 0 rest
    else finishReal negative significand exponent (b :: rest)
  | [] => real negative significand exponent []

/-- What follows the digits before the point. A negative number that does not fit in 64 bits with a
sign is real, and so is negative zero. -/
def finishWhole (negative : Bool) (significand : Nat) : List UInt8 → Except Fault (Parsed Numeral)
  | 0x2E :: rest => readFraction negative significand 0 0 rest
  | 0x65 :: rest => readExponent negative significand 0 rest
  | 0x45 :: rest => readExponent negative significand 0 rest
  | rest =>
    if !negative then .ok (.whole significand, rest)
    else if significand = 0 ∨ Nat.pow 2 63 < significand then
      .ok (.real (Binary64.ofNat significand).neg, rest)
    else .ok (.whole (-significand), rest)

def readWhole (negative : Bool) (significand : Nat) : List UInt8 → Except Fault (Parsed Numeral)
  | b :: rest =>
    if isDigit b then
      if overflows significand (digitValue b) then readLong negative significand 0 (b :: rest)
      else readWhole negative (significand * 10 + digitValue b) rest
    else finishWhole negative significand (b :: rest)
  | [] => finishWhole negative significand []

def readNumber (negative : Bool) : List UInt8 → Except Fault (Parsed Numeral)
  | [] => faultBefore .eofValue []
  | 0x30 :: rest =>
    match rest with
    | b :: _ => if isDigit b then faultAt .invalidNumber rest else finishWhole negative 0 rest
    | [] => finishWhole negative 0 []
  | b :: rest =>
    if isDigit b then readWhole negative (digitValue b) rest else faultBefore .invalidNumber rest

/-! ## Strings -/

def hexValue? (b : UInt8) : Option Nat :=
  if isDigit b then some (digitValue b)
  else if 0x41 ≤ b && b ≤ 0x46 then some (b.toNat - 55)
  else if 0x61 ≤ b && b ≤ 0x66 then some (b.toNat - 87)
  else none

def readHex : List UInt8 → Except Fault (Parsed Nat)
  | a :: b :: c :: d :: rest =>
    match hexValue? a, hexValue? b, hexValue? c, hexValue? d with
    | some a, some b, some c, some d => .ok (((a * 16 + b) * 16 + c) * 16 + d, rest)
    | _, _, _, _ => faultBefore .invalidEscape rest
  | _ => faultBefore .eofString []

def codePoint (n : Nat) : List UInt8 := (String.singleton (Char.ofNat n)).toUTF8.data.toList

/-- Reads a `\u` escape after its `u`. A high surrogate needs a low one in a second escape. -/
def readUnicode (bytes : List UInt8) : Except Fault (Parsed (List UInt8)) := do
  let (n, rest) ← readHex bytes
  if n < 0xD800 ∨ 0xDFFF < n then return (codePoint n, rest)
  if 0xDC00 ≤ n then faultBefore .loneSurrogate rest
  else
    match rest with
    | [] => faultBefore .eofString []
    | 0x5C :: [] => faultBefore .eofString []
    | 0x5C :: 0x75 :: rest =>
      let (m, rest) ← readHex rest
      if m < 0xDC00 ∨ 0xDFFF < m then faultBefore .loneSurrogate rest
      else return (codePoint (0x10000 + (n - 0xD800) * 0x400 + (m - 0xDC00)), rest)
    | 0x5C :: _ :: rest => faultBefore .hexEscapeEnd rest
    | _ :: rest => faultBefore .hexEscapeEnd rest

def readEscape : List UInt8 → Except Fault (Parsed (List UInt8))
  | [] => faultBefore .eofString []
  | b :: rest =>
    if b == 0x22 || b == 0x5C || b == 0x2F then .ok ([b], rest)
    else if b == 0x62 then .ok ([0x08], rest)
    else if b == 0x66 then .ok ([0x0C], rest)
    else if b == 0x6E then .ok ([0x0A], rest)
    else if b == 0x72 then .ok ([0x0D], rest)
    else if b == 0x74 then .ok ([0x09], rest)
    else if b == 0x75 then readUnicode rest
    else faultBefore .invalidEscape rest

/-- Reads a string after its opening quote; `read` holds the bytes read, last one first. Each turn
takes at least one byte, so that one more turn than there are bytes is enough. -/
def readStringBytes : (fuel : Nat) → (read : List UInt8) → List UInt8 →
    Except Fault (Parsed (List UInt8))
  | _, _, [] => faultBefore .eofString []
  | 0, _, _ => faultBefore .eofString []
  | fuel + 1, read, b :: rest =>
    if b == 0x22 then .ok (read.reverse, rest)
    else if b == 0x5C then do
      let (escaped, rest) ← readEscape rest
      readStringBytes fuel (escaped.reverse ++ read) rest
    else if b < 0x20 then faultBefore .controlCharacter rest
    else readStringBytes fuel (b :: read) rest

/-- Reads a string after its opening quote; `fuel` is larger than the number of bytes. -/
def readString (fuel : Nat) (bytes : List UInt8) : Except Fault (Parsed String) := do
  let (read, rest) ← readStringBytes fuel [] bytes
  return (String.ofList (Utf8.decode read), rest)

/-! ## Values -/

def readIdent (value : Value) : List Char → List UInt8 → Except Fault (Parsed Value)
  | [], rest => .ok (value, rest)
  | _ :: _, [] => faultBefore .eofValue []
  | c :: cs, b :: rest =>
    if b == byte c then readIdent value cs rest else faultBefore .expectedIdent rest

def maxDepth : Nat := 127

mutual

/-- Reads a value. `fuel` bounds the recursion and is larger than the number of bytes; `depth`
counts the enclosing arrays and objects. -/
def readValue (fuel depth : Nat) (bytes : List UInt8) : Except Fault (Parsed Value) :=
  match fuel with
  | 0 => faultAt .tooDeep bytes
  | fuel + 1 =>
    match skipSpace bytes with
    | [] => faultAt .eofValue []
    | b :: rest =>
      if b == byte 'n' then readIdent .null ['u', 'l', 'l'] rest
      else if b == byte 't' then readIdent (.bool true) ['r', 'u', 'e'] rest
      else if b == byte 'f' then readIdent (.bool false) ['a', 'l', 's', 'e'] rest
      else if b == byte '-' then do
        let (n, rest) ← readNumber true rest
        return (.number n, rest)
      else if isDigit b then do
        let (n, rest) ← readNumber false (b :: rest)
        return (.number n, rest)
      else if b == byte '"' then do
        let (s, rest) ← readString fuel rest
        return (.string s, rest)
      else if b == byte '[' then
        if maxDepth ≤ depth then faultAt .tooDeep (b :: rest)
        else readItems fuel (depth + 1) true [] rest
      else if b == byte '\x7b' then
        if maxDepth ≤ depth then faultAt .tooDeep (b :: rest)
        else readMembers fuel (depth + 1) true [] rest
      else faultAt .expectedValue (b :: rest)

/-- Reads the items of an array up to its end; `items` holds those read, last one first. -/
def readItems (fuel depth : Nat) (start : Bool) (items : List Value) (bytes : List UInt8) :
    Except Fault (Parsed Value) :=
  match fuel with
  | 0 => faultAt .tooDeep bytes
  | fuel + 1 =>
    match skipSpace bytes with
    | [] => faultAt .eofArray []
    | b :: rest =>
      if b == byte ']' then .ok (.array items.reverse, rest)
      else if start then do
        let (v, rest) ← readValue fuel depth (b :: rest)
        readItems fuel depth false (v :: items) rest
      else if b == byte ',' then
        match skipSpace rest with
        | [] => faultAt .eofValue []
        | b :: rest =>
          if b == byte ']' then faultAt .trailingComma (b :: rest)
          else do
            let (v, rest) ← readValue fuel depth (b :: rest)
            readItems fuel depth false (v :: items) rest
      else faultAt .expectedArrayEnd (b :: rest)

def readMembers (fuel depth : Nat) (start : Bool) (members : List (String × Value))
    (bytes : List UInt8) : Except Fault (Parsed Value) :=
  match fuel with
  | 0 => faultAt .tooDeep bytes
  | fuel + 1 =>
    match skipSpace bytes with
    | [] => faultAt .eofObject []
    | b :: rest =>
      if b == byte '\x7d' then .ok (.object members, rest)
      else if start then readMember fuel depth members (b :: rest)
      else if b == byte ',' then
        match skipSpace rest with
        | [] => faultAt .eofValue []
        | b :: rest =>
          if b == byte '\x7d' then faultAt .trailingComma (b :: rest)
          else readMember fuel depth members (b :: rest)
      else faultAt .expectedObjectEnd (b :: rest)

def readMember (fuel depth : Nat) (members : List (String × Value)) (bytes : List UInt8) :
    Except Fault (Parsed Value) :=
  match fuel with
  | 0 => faultAt .tooDeep bytes
  | fuel + 1 =>
    match bytes with
    | 0x22 :: rest => do
      let (key, rest) ← readString fuel rest
      match skipSpace rest with
      | 0x3A :: rest => do
        let (v, rest) ← readValue fuel depth rest
        readMembers fuel depth false (Association.insert key v members) rest
      | [] => faultAt .eofObject []
      | rest => faultAt .expectedColon rest
    | rest => faultAt .keyNotString rest

end

/-- Reads a whole document: one value, and nothing but blanks after it. -/
def readDocument (bytes : List UInt8) : Except Fault Value := do
  let (v, rest) ← readValue (3 * bytes.length + 3) 0 bytes
  match skipSpace rest with
  | [] => return v
  | rest => faultAt .trailingCharacters rest

/-- The line and the column of the place that lies before the last `after` bytes. -/
def position (bytes : List UInt8) (after : Nat) : Nat × Nat :=
  let before := bytes.take (bytes.length - after)
  (before.count 0x0A + 1, (before.reverse.takeWhile (· != 0x0A)).length)

def Fault.message (bytes : List UInt8) (f : Fault) : String :=
  let (line, column) := position bytes f.after.length
  f.reason.message ++ " at line " ++ toString line ++ " column " ++ toString column

def parse (text : String) : Except String Value :=
  let bytes := text.toUTF8.data.toList
  match readDocument bytes with
  | .ok v => .ok v
  | .error f => .error (f.message bytes)

end Settle.Json
