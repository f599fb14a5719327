import Settle.Number.Binary64

/-!
# Shortest decimals

`Decimal.shortest` gives the decimal with the fewest digits that reads back as a binary64 number,
and among those the nearest to it. The number of digits is raised from one to seventeen; on each
decimal grid only the two neighbours of the number have to be tried.

Two notations are built on it: the plain one, which never has an exponent, and the one of JSON
documents, which has one for very large and very small numbers.
-/

namespace Settle.Number

/-- The number `digits * 10 ^ exponent`. -/
structure Decimal where
  digits : Nat
  exponent : Int
  deriving DecidableEq, Repr

namespace Decimal

/-- The least `d` among `tried`, `tried + 1`, … with `den ≤ num * 10 ^ d`. -/
def scaleUp (num den : Nat) : (fuel tried : Nat) → Nat
  | 0, tried => tried
  | fuel + 1, tried => if den ≤ num then tried else scaleUp (num * 10) den fuel (tried + 1)

/-- The greatest `d` with `10 ^ d ≤ num / den`, for a positive fraction above `10 ^ -400`. -/
def log10Ratio (num den : Nat) : Int :=
  if den ≤ num then (toString (num / den)).length - 1 else -(scaleUp num den 400 0)

/-- The points of the grid of step `10 ^ k` that lie next to the fraction, the lower one first, and
the distances to them as numerators over `den * 10 ^ k` or `den`. -/
def neighbours (num den : Nat) (k : Int) : Nat × Nat × Nat :=
  let (n, d) :=
    if 0 ≤ k then (num, den * Nat.pow 10 k.toNat) else (num * Nat.pow 10 (-k).toNat, den)
  (n / d, n % d, d - n % d)

/-- Whether `point * 10 ^ k` lies between two fractions over one denominator; the bounds count when
`closed` holds. -/
def within (low high den : Nat) (closed : Bool) (k : Int) (point : Nat) : Bool :=
  let (p, d) :=
    if 0 ≤ k then (point * Nat.pow 10 k.toNat * den, 1)
    else (point * den, Nat.pow 10 (-k).toNat)
  if closed then low * d ≤ p && p ≤ high * d else low * d < p && p < high * d

def search (low value high den : Nat) (closed : Bool) : (fuel : Nat) → (k : Int) → Decimal
  | 0, k => ⟨(neighbours value den k).1, k⟩
  | fuel + 1, k =>
    let (point, below, above) := neighbours value den k
    let lower := within low high den closed k point
    let upper := within low high den closed k (point + 1)
    if lower && (!upper || below < above || (below = above && point % 2 = 0)) then ⟨point, k⟩
    else if upper then ⟨point + 1, k⟩
    else search low value high den closed fuel (k - 1)

def dropZeros : (fuel : Nat) → Decimal → Decimal
  | 0, d => d
  | fuel + 1, d =>
    if d.digits % 10 = 0 ∧ d.digits ≠ 0 then dropZeros fuel ⟨d.digits / 10, d.exponent + 1⟩ else d

/-- The decimal with the fewest digits among those that read back as `significand * 2 ^ exponent`,
the nearest of these. The numbers that read back lie between the middles of the gaps to the two
neighbouring binary numbers, the middles included when the significand is even. -/
def shortest (significand : Nat) (exponent : Int) : Decimal :=
  if significand = 0 then ⟨0, 0⟩
  else
    let gapBelow :=
      if significand = Nat.pow 2 52 ∧ Binary64.minExponent < exponent then 1 else 2
    let (up, den) :=
      if 0 ≤ exponent then (Nat.pow 2 exponent.toNat, 4) else (1, 4 * Nat.pow 2 (-exponent).toNat)
    let value := 4 * significand * up
    let low := (4 * significand - gapBelow) * up
    let high := (4 * significand + 2) * up
    dropZeros 20 (search low value high den (significand % 2 = 0) 17 (log10Ratio value den))

def digitChars (d : Decimal) : List Char := (toString d.digits).toList

def leading (d : Decimal) : Int := (d.digitChars.length : Int) + d.exponent - 1

def parts (d : Decimal) : List Char × List Char :=
  let cs := d.digitChars
  if 0 ≤ d.exponent then (cs ++ List.replicate d.exponent.toNat '0', [])
  else
    let places := (-d.exponent).toNat
    if places < cs.length then (cs.take (cs.length - places), cs.drop (cs.length - places))
    else (['0'], List.replicate (places - cs.length) '0' ++ cs)

end Decimal

/-- How a number is written: where the plain notation ends, and whether a whole number keeps a
fractional zero. -/
structure NumberStyle where
  /-- The least and the greatest exponent of the first digit that are written plainly. -/
  plain : Option (Int × Int)
  /-- Whether a whole number in plain notation ends with `.0`. -/
  keepPoint : Bool

def NumberStyle.display : NumberStyle := ⟨none, false⟩

/-- JSON documents write the exponents from -5 to 15 plainly, and always a point. -/
def NumberStyle.json : NumberStyle := ⟨some (-5, 15), true⟩

def Decimal.render (d : Decimal) (style : NumberStyle) : List Char :=
  let scientific := match style.plain with
    | none => false
    | some (low, high) => d.digits ≠ 0 && (d.leading < low || high < d.leading)
  if scientific then
    let mantissa := match d.digitChars with
      | [] => []
      | [c] => [c]
      | c :: cs => c :: '.' :: cs
    let sign := if d.leading < 0 then '-' else '+'
    mantissa ++ 'e' :: sign :: (toString d.leading.natAbs).toList
  else
    let (whole, fraction) := d.parts
    if !fraction.isEmpty then whole ++ '.' :: fraction
    else if style.keepPoint then whole ++ ['.', '0']
    else whole

def Binary64.render (style : NumberStyle) : Binary64 → String
  | .finite negative m e =>
    (if negative then "-" else "") ++ String.ofList ((Decimal.shortest m e).render style)
  | .infinite negative => if negative then "-inf" else "inf"
  | .nan => "NaN"

end Settle.Number
