import Settle.Number.Rounding

/-!
# Binary64 numbers

Double-precision numbers as exact values, without machine floats: a finite one is a sign, a
significand below `2 ^ 53` and an exponent of two. Every operation computes the exact result as a
fraction and rounds it once, so that the outcome is the one the standard prescribes.
-/

namespace Settle.Number

/-- A binary64 number; a finite one is `significand * 2 ^ exponent` with a sign. -/
inductive Binary64 where
  | finite (negative : Bool) (significand : Nat) (exponent : Int)
  | infinite (negative : Bool)
  | nan
  deriving DecidableEq, Repr, Inhabited

namespace Binary64

def minExponent : Int := -1074

def maxExponent : Int := 971

def zero (negative : Bool) : Binary64 := .finite negative 0 minExponent

/-- The greatest `e` with `2 ^ e ≤ num / den`, for a positive fraction. -/
def log2Ratio (num den : Nat) : Int :=
  let e : Int := (Nat.log2 num : Int) - (Nat.log2 den : Int)
  let reached :=
    if 0 ≤ e then den * Nat.pow 2 e.toNat ≤ num else den ≤ num * Nat.pow 2 (-e).toNat
  if reached then e else e - 1

/-- The number nearest to a fraction, a tie to the even significand. Fractions beyond the greatest
finite number become infinite. -/
def ofRatio (negative : Bool) (num den : Nat) : Binary64 :=
  if num = 0 then zero negative
  else
    let e := max (log2Ratio num den - 52) minExponent
    let n :=
      if 0 ≤ e then nearest num (den * Nat.pow 2 e.toNat)
      else nearest (num * Nat.pow 2 (-e).toNat) den
    let (n, e) := if n = Nat.pow 2 53 then (Nat.pow 2 52, e + 1) else (n, e)
    if maxExponent < e then .infinite negative else .finite negative n e

def ofNat (n : Nat) : Binary64 := ofRatio false n 1

def ratio (significand : Nat) (exponent : Int) : Nat × Nat :=
  if 0 ≤ exponent then (significand * Nat.pow 2 exponent.toNat, 1)
  else (significand, Nat.pow 2 (-exponent).toNat)

theorem ratio_den_pos (significand : Nat) (exponent : Int) :
    0 < (ratio significand exponent).2 := by
  unfold ratio
  split
  · exact Nat.one_pos
  · exact Nat.pow_pos (by decide)

def neg : Binary64 → Binary64
  | .finite s m e => .finite (!s) m e
  | .infinite s => .infinite (!s)
  | .nan => .nan

def mul : Binary64 → Binary64 → Binary64
  | .finite s m e, .finite t n f =>
    let (a, b) := ratio m e
    let (c, d) := ratio n f
    ofRatio (xor s t) (a * c) (b * d)
  | _, _ => .nan

/-- The quotient of two finite numbers, rounded; the divisor is not zero. -/
def div : Binary64 → Binary64 → Binary64
  | .finite s m e, .finite t n f =>
    let (a, b) := ratio m e
    let (c, d) := ratio n f
    if n = 0 then .nan else ofRatio (xor s t) (a * d) (b * c)
  | _, _ => .nan

def addMagnitudes : Binary64 → Binary64 → Binary64
  | .finite _ m e, .finite _ n f =>
    let (a, b) := ratio m e
    let (c, d) := ratio n f
    ofRatio false (a * d + c * b) (b * d)
  | _, _ => .nan

def isZero : Binary64 → Bool
  | .finite _ m _ => m == 0
  | _ => false

def isFinite : Binary64 → Bool
  | .finite .. => true
  | _ => false

end Binary64

end Settle.Number
