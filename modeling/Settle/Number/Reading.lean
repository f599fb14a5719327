import Settle.Number.Binary64

/-!
# Reading numbers

`Binary64.ofText?` reads a decimal number as users write it: an optional sign, digits with an
optional point (a digit on one side is enough) and an optional exponent, or one of the words `inf`,
`infinity` and `nan` in any case. The result is the binary64 number nearest to the exact value.

`readNat?` reads a whole number with an optional plus sign.
-/

namespace Settle.Number

def digitsValue (cs : List Char) : Nat :=
  cs.foldl (fun n c => n * 10 + (c.toNat - 48)) 0

def readSign : List Char → Bool × List Char
  | '-' :: cs => (true, cs)
  | '+' :: cs => (false, cs)
  | cs => (false, cs)

/-- The exponent part at the end of a number, empty or `e` with a signed number. -/
def readExponent : List Char → Option Int
  | [] => some 0
  | c :: cs =>
    if c = 'e' ∨ c = 'E' then
      let (negative, digits) := readSign cs
      if !digits.isEmpty && digits.all Char.isDigit then
        some (if negative then -(digitsValue digits : Int) else digitsValue digits)
      else none
    else none

/-- The binary64 number nearest to `digits * 10 ^ exponent`. Exponents far outside the range of
binary64 are settled without computing the power. -/
def Binary64.ofDecimal (negative : Bool) (digits : Nat) (exponent : Int) : Binary64 :=
  let magnitude := (toString digits).length + exponent
  if digits = 0 ∨ magnitude < -400 then .zero negative
  else if 400 < magnitude then .infinite negative
  else if 0 ≤ exponent then .ofRatio negative (digits * Nat.pow 10 exponent.toNat) 1
  else .ofRatio negative digits (Nat.pow 10 (-exponent).toNat)

def readMagnitude (negative : Bool) (cs : List Char) : Option Binary64 :=
  let whole := cs.takeWhile Char.isDigit
  let rest := cs.dropWhile Char.isDigit
  let (fraction, rest) := match rest with
    | '.' :: rest => (rest.takeWhile Char.isDigit, rest.dropWhile Char.isDigit)
    | rest => ([], rest)
  if whole.isEmpty && fraction.isEmpty then none
  else
    (readExponent rest).map fun e =>
      .ofDecimal negative (digitsValue (whole ++ fraction)) (e - fraction.length)

def Binary64.ofText? (text : String) : Option Binary64 :=
  let (negative, cs) := readSign text.toList
  match String.ofList (cs.map Char.toLower) with
  | "inf" | "infinity" => some (.infinite negative)
  | "nan" => some .nan
  | _ => readMagnitude negative cs

/-- Why a text is no whole number. -/
inductive NatError where
  | empty
  | invalidDigit
  | tooLarge
  deriving DecidableEq, Repr

def NatError.message : NatError → String
  | .empty => "cannot parse integer from empty string"
  | .invalidDigit => "invalid digit found in string"
  | .tooLarge => "number too large to fit in target type"

/-- Reads decimal digits onto `acc`, where every value stays below `limit`. The first thing that is
wrong, from the left, is reported. -/
def readDigits (limit : Nat) (acc : Nat) : List Char → Except NatError Nat
  | [] => .ok acc
  | c :: cs =>
    if c.isDigit then
      let n := acc * 10 + (c.toNat - 48)
      if n < limit then readDigits limit n cs else .error .tooLarge
    else .error .invalidDigit

/-- Reads a whole number below `limit`: decimal digits, after a plus sign if there is one. -/
def readNat (limit : Nat) (text : String) : Except NatError Nat :=
  match text.toList with
  | [] => .error .empty
  | ['+'] => .error .invalidDigit
  | '+' :: cs => readDigits limit 0 cs
  | cs => readDigits limit 0 cs

end Settle.Number
