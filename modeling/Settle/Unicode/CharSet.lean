/-!
# Sets of code points

A set is kept as its bounds: the code points, in ascending order, at which membership changes. Sets
are combined by going through the bounds of both, and a code point is a member when the number of
bounds up to it is odd. Equal sets have equal bounds, whatever they were built from.
-/

namespace Settle.Unicode

/-- A set of code points, by the code points at which membership changes. -/
structure CharSet where
  bounds : List Nat
  deriving DecidableEq, Repr, Inhabited

/-- Puts a bound in front of others if membership changes there. -/
def putBound (changes : Bool) (n : Nat) (bounds : List Nat) : List Nat :=
  if changes then n :: bounds else bounds

/-- The bounds of the set of all code points for which `f` holds of membership in two sets. The
flags tell whether the code points before the next bounds belong to either set. -/
def combineBounds (f : Bool → Bool → Bool) (a b : Bool) : List Nat → List Nat → List Nat
  | [], [] => []
  | x :: xs, [] => putBound (f a b != f (!a) b) x (combineBounds f (!a) b xs [])
  | [], y :: ys => putBound (f a b != f a (!b)) y (combineBounds f a (!b) [] ys)
  | x :: xs, y :: ys =>
    if x < y then putBound (f a b != f (!a) b) x (combineBounds f (!a) b xs (y :: ys))
    else if y < x then putBound (f a b != f a (!b)) y (combineBounds f a (!b) (x :: xs) ys)
    else putBound (f a b != f (!a) (!b)) x (combineBounds f (!a) (!b) xs ys)
  termination_by xs ys => xs.length + ys.length

/-- The ranges that lie between bounds: first and last code point of each. -/
def boundedRanges : List Nat → List (Nat × Nat)
  | low :: next :: rest => (low, next - 1) :: boundedRanges rest
  | _ => []

def boundsOfAscending : List Nat → List Nat
  | [] => []
  | n :: ns =>
    match boundsOfAscending ns with
    | low :: rest => if n + 1 = low then n :: rest else n :: (n + 1) :: low :: rest
    | [] => [n, n + 1]

/-- The number of bounds, between the entries `low` and `high`, that are not above `n`; those before
`low` are not and those from `high` on are. -/
def countUpTo (bounds : Array Nat) (n : Nat) (low high : Nat) : Nat :=
  if _ : low < high then
    let middle := (low + high) / 2
    match bounds[middle]? with
    | some b =>
      if b ≤ n then countUpTo bounds n (middle + 1) high else countUpTo bounds n low middle
    | none => low
  else low
  termination_by high - low

def isBetween (bounds : Array Nat) (n : Nat) : Bool :=
  countUpTo bounds n 0 bounds.size % 2 == 1

namespace CharSet

def empty : CharSet := ⟨[]⟩

/-- All characters: the code points up to the last one, except the surrogates. -/
def full : CharSet := ⟨[0, 0xD800, 0xE000, 0x110000]⟩

/-- The code points from `low` to `high`, both included. -/
def range (low high : Nat) : CharSet := if low ≤ high then ⟨[low, high + 1]⟩ else empty

def single (n : Nat) : CharSet := ⟨[n, n + 1]⟩

def ofAscending (ns : List Nat) : CharSet := ⟨boundsOfAscending ns⟩

def has (s : CharSet) (n : Nat) : Bool := s.bounds.countP (· ≤ n) % 2 == 1

def isEmpty (s : CharSet) : Bool := s.bounds.isEmpty

def ranges (s : CharSet) : List (Nat × Nat) := boundedRanges s.bounds

def combine (f : Bool → Bool → Bool) (s t : CharSet) : CharSet :=
  ⟨combineBounds f false false s.bounds t.bounds⟩

def union (s t : CharSet) : CharSet := combine or s t

def inter (s t : CharSet) : CharSet := combine and s t

def diff (s t : CharSet) : CharSet := combine (fun a b => a && !b) s t

def symmDiff (s t : CharSet) : CharSet := combine xor s t

def compl (s : CharSet) : CharSet := full.diff s

def negateIf (negated : Bool) (s : CharSet) : CharSet := if negated then s.compl else s

/-- The set with a range in front of it, which is quick if the range lies before all members. -/
def putRange (low high : Nat) (s : CharSet) : CharSet :=
  match s.bounds with
  | next :: _ =>
    if low ≤ high ∧ high + 1 < next then ⟨low :: (high + 1) :: s.bounds⟩
    else (range low high).union s
  | [] => range low high

def ofRanges (rs : List (Nat × Nat)) : CharSet :=
  rs.foldr (fun r s => putRange r.1 r.2 s) empty

def unions (sets : List CharSet) : CharSet := sets.foldr union empty

end CharSet

end Settle.Unicode
