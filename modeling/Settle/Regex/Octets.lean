import Settle.Unicode.CharSet

/-!
# Sets of characters as octets

A character is encoded with one to four octets. A range of characters is cut into pieces, each of
which is all combinations of a range of first octets with a range of second ones, and so on: these
are the steps of an automaton that reads octets.
-/

namespace Settle.Regex

open Settle.Unicode (CharSet)

abbrev Octets := List (Nat × Nat)

def octetsOf (n : Nat) : List Nat :=
  if n < 0x80 then [n]
  else if n < 0x800 then [0xC0 + n / 64, 0x80 + n % 64]
  else if n < 0x10000 then [0xE0 + n / 4096, 0x80 + n / 64 % 64, 0x80 + n % 64]
  else [0xF0 + n / 262144, 0x80 + n / 4096 % 64, 0x80 + n / 64 % 64, 0x80 + n % 64]

/-- Cuts a range so that a piece with several blocks of a size has whole blocks only. The sizes are
those of what the last one, two and three octets can tell. -/
def wholeBlocks : (sizes : List Nat) → (low high : Nat) → List (Nat × Nat)
  | [], low, high => [(low, high)]
  | m :: ms, low, high =>
    if low / m = high / m then [(low, high)]
    else
      let first := if low % m = 0 then low else (low / m + 1) * m
      let last := if (high + 1) % m = 0 then high + 1 else high / m * m
      (if low < first then [(low, first - 1)] else [])
        ++ (if first < last then wholeBlocks ms first (last - 1) else [])
        ++ (if last ≤ high then [(last, high)] else [])

def piecesWithin (low high : Nat) : List Octets :=
  if low < 0x80 then [[(low, high)]]
  else (wholeBlocks [64, 4096, 262144] low high).map fun (a, b) => (octetsOf a).zip (octetsOf b)

/-- The ranges of code points with one, two, three and four octets; surrogates have none. -/
def octetLengths : List (Nat × Nat) :=
  [(0, 0x7F), (0x80, 0x7FF), (0x800, 0xD7FF), (0xE000, 0xFFFF), (0x10000, 0x10FFFF)]

def piecesOfRange (low high : Nat) : List Octets :=
  octetLengths.flatMap fun (a, b) =>
    if max a low ≤ min b high then piecesWithin (max a low) (min b high) else []

def piecesOf (s : CharSet) : List Octets := s.ranges.flatMap fun (a, b) => piecesOfRange a b

/-- Gathers neighbours that begin alike: what they begin with, and what is left of each. -/
def gatherStarts {α : Type} [BEq α] : List (List α) → List (α × List (List α))
  | [] => []
  | [] :: rest => gatherStarts rest
  | (a :: as) :: rest =>
    match gatherStarts rest with
    | (b, tails) :: groups =>
      if a == b then (b, as :: tails) :: groups else (a, [as]) :: (b, tails) :: groups
    | [] => [(a, [as])]

end Settle.Regex
