import Settle.Regex.Pattern
import Settle.Unicode.Letter

/-!
# Matching

A pattern relates positions of a text: the position where a match starts to those where it may end.
Sets of positions are kept as the bits of a number. A pattern is first laid along the text: each
literal, set and condition becomes the set of the positions where it applies. `Track.ends` then
gives the positions where matches end that start in a given set; a text matches when this set is not
empty for all starts together.

A repetition collects positions until no new one turns up. Every turn but the last adds one, so as
many turns as there are positions are enough.
-/

namespace Settle.Regex

/-- The positions that satisfy a condition on the character before and the characters after
them. -/
def positions (test : Option Char → List Char → Bool) : (before : Option Char) → List Char → Nat
  | before, [] => if test before [] then 1 else 0
  | before, c :: cs =>
    2 * positions test (some c) cs + if test before (c :: cs) then 1 else 0

/-- Applies `f` to positions a number of times, or until they do not change any more. -/
def iterate (f : Nat → Nat) : Nat → Nat → Nat
  | 0, s => s
  | n + 1, s =>
    let next := f s
    if next = s then s else iterate f n next

/-- The positions that `f` reaches from `fresh` in at most `turns` turns, together with those
`seen` before, among which are the fresh ones. -/
def reach (f : Nat → Nat) : (turns : Nat) → (fresh seen : Nat) → Nat
  | 0, _, seen => seen
  | turns + 1, fresh, seen =>
    let all := seen ||| f fresh
    if all = seen then seen else reach f turns (all ^^^ seen) all

/-- The positions that are reached from `s` by steps of one character from positions in `m`. Adding
carries a bit of `s` through the bits of `m` that follow it without a gap. -/
def sweep (m s : Nat) : Nat := (((s &&& m) + m) ^^^ m) ||| s

def wordBounds : Array Nat := Unicode.wordChars.bounds.toArray

def wordAt (ascii : Bool) : Option Char → Bool
  | none => false
  | some c =>
    if ascii || c.toNat < 128 then c.isAlphanum || c == '_'
    else Unicode.isBetween wordBounds c.toNat

def Look.holds (before after : Option Char) : Look → Bool
  | .startText => before.isNone
  | .endText => after.isNone
  | .startLine => before.isNone || before == some '\n'
  | .endLine => after.isNone || after == some '\n'
  | .startLineCrlf => before.isNone || before == some '\n'
      || (before == some '\r' && after != some '\n')
  | .endLineCrlf => after.isNone || after == some '\r'
      || (after == some '\n' && before != some '\r')
  | .wordBoundary a => wordAt a before != wordAt a after
  | .noWordBoundary a => wordAt a before == wordAt a after
  | .wordStart a => !wordAt a before && wordAt a after
  | .wordEnd a => wordAt a before && !wordAt a after
  | .wordStartHalf a => !wordAt a before
  | .wordEndHalf a => !wordAt a after

inductive Track where
  | stay
  /-- A text of `length` characters may start at the positions `starts`. -/
  | step (starts length : Nat)
  | only (places : Nat)
  | repeated (t : Track) (min : Nat) (max : Option Nat)
  | sequence (ts : List Track)
  | choice (ts : List Track)
  deriving Repr, Inhabited

mutual

def Track.ofPattern (text : List Char) : Pattern → Track
  | .empty => .stay
  | .literal cs => .step (positions (fun _ after => cs.isPrefixOf after) none text) cs.length
  | .set s =>
    let bounds := s.bounds.toArray
    let starts (_ : Option Char) : List Char → Bool
      | [] => false
      | c :: _ => Unicode.isBetween bounds c.toNat
    .step (positions starts none text) 1
  | .look l => .only (positions (fun before after => l.holds before after.head?) none text)
  | .repeated p min max _ => .repeated (ofPattern text p) min max
  | .capture _ p => ofPattern text p
  | .concat ps => .sequence (ofPatterns text ps)
  | .choice ps => .choice (ofPatterns text ps)

def Track.ofPatterns (text : List Char) : List Pattern → List Track
  | [] => []
  | p :: ps => ofPattern text p :: ofPatterns text ps

end

mutual

/-- The positions where matches end that start at the positions `s` of a text with `length`
characters. -/
def Track.ends (length : Nat) (s : Nat) : Track → Nat
  | .stay => s
  | .step starts n => (s &&& starts) <<< n
  | .only places => s &&& places
  | .repeated t min max =>
    let f := fun s => t.ends length s
    let s := iterate f min s
    match t, max with
    | .step starts 1, none => sweep starts s
    | _, none => reach f (length + 1) s s
    | _, some max => reach f (max - min) s s
  | .sequence ts => endsInTurn length s ts
  | .choice ts => endsOfAny length s ts

def Track.endsInTurn (length : Nat) (s : Nat) : List Track → Nat
  | [] => s
  | t :: ts => if s = 0 then 0 else endsInTurn length (t.ends length s) ts

def Track.endsOfAny (length : Nat) (s : Nat) : List Track → Nat
  | [] => 0
  | t :: ts => t.ends length s ||| endsOfAny length s ts

end

def Pattern.occursIn (p : Pattern) (text : List Char) : Bool :=
  (Track.ofPattern text p).ends text.length (Nat.pow 2 (text.length + 1) - 1) != 0

end Settle.Regex
