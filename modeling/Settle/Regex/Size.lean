import Settle.Regex.Octets
import Settle.Regex.Pattern

/-!
# The size of a pattern

A pattern may take at most ten mebibytes as an automaton that reads octets, once from the first to
the last and once from the last to the first. A state takes 32 bytes, with 4 more for each way on of
a state that chooses freely and 8 for each range of one that chooses by the next octet. Repetitions
with bounds are written out. The size is found without building the automaton.
-/

namespace Settle.Regex

open Settle.Unicode (CharSet)

def stateSize : Nat := 32

def forkSize (ways : Nat) : Nat := stateSize + 4 * ways

def switchSize (ranges : Nat) : Nat := stateSize + 8 * ranges

def total (sizes : List Nat) : Nat := sizes.foldl (· + ·) 0

inductive Direction where
  | forward
  | backward
  deriving DecidableEq, Repr

/-! ## Sets of characters -/

/-- A state for a place in a set: ranges of octets and the number of the state after each. -/
abbrev Switch := List ((Nat × Nat) × Nat)

/-- The number of a state among those there are, to which it is added if it is new. Number zero is
the state after a character. -/
def numbered (known : List (Switch × Nat)) (s : Switch) : Nat × List (Switch × Nat) :=
  match known.lookup s with
  | some n => (n, known)
  | none => (known.length + 1, (s, known.length + 1) :: known)

/-- The state that reads one of several pieces, where equal states are shared. Pieces have at most
`places` octets. -/
def shared : (places : Nat) → List Octets → List (Switch × Nat) → Nat × List (Switch × Nat)
  | 0, _, known => (0, known)
  | places + 1, pieces, known =>
    let groups := gatherStarts pieces
    if groups.isEmpty then (0, known)
    else
      let (ways, known) := groups.foldl (fun (ways, known) (octets, tails) =>
        let (next, known) := shared places tails known
        ((octets, next) :: ways, known)) ([], known)
      numbered known ways

/-- The number of states to read pieces when only what they begin with is shared. -/
def startCount : (places : Nat) → List Octets → Nat
  | 0, _ => 0
  | places + 1, pieces =>
    total ((gatherStarts pieces).map fun (_, tails) => 1 + startCount places tails)

/-- The size of a set of characters. Sets of ASCII characters need one choice only. -/
def setSize (d : Direction) (s : CharSet) : Nat :=
  if s.ranges.all fun (_, high) => high < 0x80 then stateSize + switchSize s.ranges.length
  else
    let pieces := piecesOf s
    match d with
    | .forward => stateSize + total ((shared 4 pieces []).2.map fun (s, _) => switchSize s.length)
    | .backward => forkSize pieces.length + stateSize + stateSize * startCount 4 pieces

def literalOctets (cs : List Char) : List Nat := cs.flatMap fun c => octetsOf c.toNat

/-- Gathers literals by their first octets, up to the next empty one. Within a group and between
groups the order stays. -/
def gatherOctets (words : List (List Nat)) : List (Nat × List (List Nat)) :=
  words.foldr (fun word groups =>
    match word with
    | [] => groups
    | o :: os =>
      match groups.lookup o with
      | some tails =>
        (o, os :: tails) :: groups.filter (·.1 != o)
      | none => (o, [os]) :: groups) []

def stretches : List (List Nat) → List (List (List Nat))
  | [] => [[]]
  | [] :: words => [] :: stretches words
  | word :: words =>
    match stretches words with
    | s :: rest => (word :: s) :: rest
    | [] => [[word]]

/-- The size of a tree that reads one of several literals, the last state apart; the literals have
at most `places` octets. A node has a free way on for each stretch and for each empty literal, where
those that come first count once; each stretch has a choice between octets. -/
def treeSize : (places : Nat) → List (List Nat) → Nat
  | 0, _ => 0
  | places + 1, words =>
    if words.all List.isEmpty then 0
    else
      let empties := (words.takeWhile List.isEmpty).length
      let counted := words.drop (empties - 1)
      let parts := (stretches counted).map gatherOctets
      let filled := parts.filter fun groups => !groups.isEmpty
      forkSize (filled.length + (parts.length - 1))
        + total (filled.map fun groups =>
            (if groups.length = 1 then stateSize else switchSize groups.length)
              + total (groups.map fun (_, tails) => treeSize places tails))

def literalsSize (d : Direction) (words : List (List Nat)) : Nat :=
  let words := match d with
    | .forward => words
    | .backward => words.map List.reverse
  stateSize + treeSize ((words.map List.length).foldl max 0 + 1) words

/-! ## Patterns -/

def copiesSize (n part : Nat) : Nat := if n = 0 then stateSize else n * part

/-- The size of a repetition of a part. `fills` tells whether each match of the part has a
character. -/
def repeatedSize (part : Nat) (fills : Bool) (min : Nat) : (max : Option Nat) → Nat
  | none =>
    if min = 0 then
      if fills then forkSize 2 + part else part + forkSize 2 + forkSize 2 + stateSize
    else min * part + forkSize 2
  | some max =>
    if min = 0 ∧ max = 1 then forkSize 2 + stateSize + part
    else if min = max then copiesSize min part
    else copiesSize min part + stateSize + (max - min) * (forkSize 2 + part)

def Pattern.octets? : Pattern → Option (List Nat)
  | .literal cs => some (literalOctets cs)
  | _ => none

mutual

/-- The size of a pattern for one direction. Groups are only told when reading forward. -/
def Pattern.size (d : Direction) : Pattern → Nat
  | .empty => stateSize
  | .look _ => stateSize
  | .literal cs => stateSize * (literalOctets cs).length
  | .set s => setSize d s
  | .repeated p min max _ =>
    repeatedSize (p.size d) (match p.minLength with | some n => n != 0 | none => false) min max
  | .capture _ p => if d = .forward then p.size d + 2 * stateSize else p.size d
  | .concat ps => sumSize d ps
  | .choice ps =>
    match ps.mapM Pattern.octets? with
    | some words => literalsSize d words
    | none => forkSize ps.length + stateSize + sumSize d ps

def Pattern.sumSize (d : Direction) : List Pattern → Nat
  | [] => 0
  | p :: ps => p.size d + sumSize d ps

end

mutual

/-- Whether all matches stand at the start of the text, if `edge` is the condition for the start, as
far as the first parts of the pattern tell. -/
def Pattern.beginsWith (edge : Look) : Pattern → Bool
  | .look l => l == edge
  | .repeated p min _ _ => min != 0 && p.beginsWith edge
  | .capture _ p => p.beginsWith edge
  | .concat ps => anyBeginsWith edge ps
  | .choice ps => allBeginWith edge ps
  | _ => false

def Pattern.anyBeginsWith (edge : Look) : List Pattern → Bool
  | [] => false
  | p :: ps => p.beginsWith edge || (p.onlyEmpty && anyBeginsWith edge ps)

def Pattern.allBeginWith (edge : Look) : List Pattern → Bool
  | [] => true
  | p :: ps => p.beginsWith edge && allBeginWith edge ps

end

mutual

def Pattern.reversed : Pattern → Pattern
  | .repeated p min max greedy => .repeated p.reversed min max greedy
  | .capture i p => .capture i p.reversed
  | .concat ps => .concat (allReversed ps).reverse
  | .choice ps => .choice (allReversed ps)
  | p => p

def Pattern.allReversed : List Pattern → List Pattern
  | [] => []
  | p :: ps => p.reversed :: allReversed ps

end

def Pattern.anchored (p : Pattern) : Direction → Bool
  | .forward => p.beginsWith .startText
  | .backward => p.reversed.beginsWith .endText

/-- The size of the whole automaton for one direction: what skips the characters before a match, the
pattern as a group, and the last state. -/
def Pattern.automatonSize (p : Pattern) (d : Direction) : Nat :=
  let skip := if p.anchored d then stateSize else stateSize + switchSize 1 + forkSize 2
  skip + (Pattern.capture 0 p).size d + stateSize

def sizeLimit : Nat := 10485760

def Pattern.fits (p : Pattern) : Bool :=
  p.automatonSize .forward ≤ sizeLimit && p.automatonSize .backward ≤ sizeLimit

end Settle.Regex
