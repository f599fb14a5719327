import Settle.Unicode.CharSet

/-!
# Patterns

What a regular expression denotes once its notation is read: texts, sets of characters, conditions
on a position, and what is built from them by repetition, capture, concatenation and choice. The
functions that build patterns keep them in a normal form: no concatenation within another one, no
two literals side by side, no choice between single characters only, and so on.
-/

namespace Settle.Regex

open Settle.Unicode (CharSet)

inductive Look where
  | startText
  | endText
  | startLine
  | endLine
  /-- Line conditions where a carriage return ends a line too. -/
  | startLineCrlf
  | endLineCrlf
  /-- Conditions on the word characters around the position; ASCII ones only, if `ascii` holds. -/
  | wordBoundary (ascii : Bool)
  | noWordBoundary (ascii : Bool)
  | wordStart (ascii : Bool)
  | wordEnd (ascii : Bool)
  | wordStartHalf (ascii : Bool)
  | wordEndHalf (ascii : Bool)
  deriving DecidableEq, Repr

inductive Pattern where
  | empty
  | literal (cs : List Char)
  | set (s : CharSet)
  | look (l : Look)
  /-- At least `min` and at most `max` times, without bound if there is no `max`. Whether few or
  many are tried first tells patterns apart but not whether a text matches. -/
  | repeated (p : Pattern) (min : Nat) (max : Option Nat) (greedy : Bool)
  | capture (index : Nat) (p : Pattern)
  | concat (ps : List Pattern)
  | choice (ps : List Pattern)
  deriving Repr, Inhabited

namespace Pattern

mutual

def same : Pattern → Pattern → Bool
  | empty, empty => true
  | literal a, literal b => a == b
  | set s, set t => s == t
  | look k, look l => k == l
  | repeated p m n g, repeated q m' n' g' => same p q && m == m' && n == n' && g == g'
  | capture i p, capture j q => i == j && same p q
  | concat ps, concat qs => sameAll ps qs
  | choice ps, choice qs => sameAll ps qs
  | _, _ => false

def sameAll : List Pattern → List Pattern → Bool
  | [], [] => true
  | p :: ps, q :: qs => same p q && sameAll ps qs
  | _, _ => false

end

/-! ## Lengths of matches -/

mutual

/-- Whether all matches are empty: the pattern only tests positions. -/
def onlyEmpty : Pattern → Bool
  | empty => true
  | look _ => true
  | literal _ => false
  | set _ => false
  | repeated p _ max _ => max.isSome && p.onlyEmpty
  | capture _ p => p.onlyEmpty
  | concat ps => allOnlyEmpty ps
  | choice ps => allOnlyEmpty ps

def allOnlyEmpty : List Pattern → Bool
  | [] => true
  | p :: ps => p.onlyEmpty && allOnlyEmpty ps

end

mutual

/-- The least number of characters of a match; none if a part of the pattern matches nothing. -/
def minLength : Pattern → Option Nat
  | empty => some 0
  | look _ => some 0
  | literal cs => some cs.length
  | set s => if s.isEmpty then none else some 1
  | repeated p min _ _ => p.minLength.map (· * min)
  | capture _ p => p.minLength
  | concat ps => sumMinLength ps
  | choice ps => leastMinLength ps

def sumMinLength : List Pattern → Option Nat
  | [] => some 0
  | p :: ps =>
    match p.minLength, sumMinLength ps with
    | some m, some n => some (m + n)
    | _, _ => none

def leastMinLength : List Pattern → Option Nat
  | [] => none
  | [p] => p.minLength
  | p :: ps =>
    match p.minLength, leastMinLength ps with
    | some m, some n => some (min m n)
    | _, _ => none

end

/-! ## Building patterns -/

/-- A set of characters; one with a single member is a literal. -/
def ofSet (s : CharSet) : Pattern :=
  match s.ranges with
  | [(low, high)] => if low = high then literal [Char.ofNat low] else set s
  | _ => set s

/-- A repetition. What matches nothing but the empty text is repeated once at most. -/
def times (p : Pattern) (min : Nat) (max : Option Nat) (greedy : Bool) : Pattern :=
  let (min, max) := if p.onlyEmpty then (min.min 1, some ((max.getD 1).min 1)) else (min, max)
  if max = some 0 then empty
  else if min = 1 ∧ max = some 1 then p
  else repeated p min max greedy

def factors : Pattern → List Pattern
  | empty => []
  | concat ps => ps
  | p => [p]

/-- A part in front of others; literals side by side become one. -/
def joinFactor (p : Pattern) (rest : List Pattern) : List Pattern :=
  match p, rest with
  | literal a, literal b :: rest => literal (a ++ b) :: rest
  | p, rest => p :: rest

def inSequence (ps : List Pattern) : Pattern :=
  match (ps.flatMap factors).foldr joinFactor [] with
  | [] => empty
  | [p] => p
  | ps => concat ps

def branches : Pattern → List Pattern
  | choice ps => ps
  | p => [p]

def singleton? : Pattern → Option CharSet
  | literal [c] => some (.single c.toNat)
  | _ => none

def set? : Pattern → Option CharSet
  | set s => some s
  | _ => none

/-- The set of characters that a choice between single characters, or one between sets, amounts
to. -/
def commonSet? (ps : List Pattern) : Option CharSet :=
  ((ps.mapM singleton?).or (ps.mapM set?)).map .unions

/-- A choice between patterns that have no first part in common. -/
def chosen (ps : List Pattern) : Pattern :=
  match ps.flatMap branches with
  | [] => set .empty
  | [p] => p
  | ps =>
    match commonSet? ps with
    | some s => ofSet s
    | none => choice ps

def concat? : Pattern → Option (List Pattern)
  | concat ps => some ps
  | _ => none

def commonFactors : List Pattern → List Pattern → List Pattern
  | p :: ps, q :: qs => if p.same q then p :: commonFactors ps qs else []
  | _, _ => []

def commonStart : List (List Pattern) → List Pattern
  | [] => []
  | ps :: rest => rest.foldl commonFactors ps

/-- A choice between patterns. First parts that all of them have in common come before it. -/
def oneOf (ps : List Pattern) : Pattern :=
  match chosen ps with
  | choice ps =>
    match ps.mapM concat? with
    | none => choice ps
    | some parts =>
      let start := commonStart parts
      if start.isEmpty then choice ps
      else inSequence (start ++ [chosen (parts.map fun p => inSequence (p.drop start.length))])
  | p => p

end Pattern

end Settle.Regex
