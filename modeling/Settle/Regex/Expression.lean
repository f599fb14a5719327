import Settle.Regex.Bracket
import Settle.Unicode.Additions

/-!
# Expressions

Reads regular expressions into patterns: symbols and classes, groups, flags, alternatives and
repetitions. Look-around and references to groups are refused, and so is everything that is left
open, out of order or nested too deeply.

The reader goes through the characters once. It keeps what was read of the group at hand and, on a
stack, of the groups around it.
-/

namespace Settle.Regex

open Settle.Unicode (CharSet)

/-! ## Groups -/

/-- A part of an expression: what it denotes, how deeply its parts are nested, and whether it may be
repeated, which flags may not. -/
structure Item where
  pattern : Pattern
  depth : Nat := 0
  repeatable : Bool := true
  deriving Inhabited

/-- The item with one more level around it, unless it is nested too deeply. -/
def Item.deepen? (i : Item) : Option Item :=
  if depthLimit ≤ i.depth then none else some { i with depth := i.depth + 1 }

/-- Several items as one: a single one is left as it is. -/
def Item.gather? (join : List Pattern → Pattern) : List Item → Option Item
  | [] => some ⟨.empty, 0, true⟩
  | [i] => some i
  | is =>
    Item.deepen? ⟨join (is.map Item.pattern), (is.map Item.depth).foldl max 0, true⟩

/-- What was read of a group: finished alternatives and the items of the current one, each with the
last one first. -/
structure Group where
  alternatives : List Item := []
  items : List Item := []
  deriving Inhabited

namespace Group

def add (g : Group) (i : Item) : Group := { g with items := i :: g.items }

def bar? (g : Group) : Option Group := do
  let alternative ← Item.gather? .inSequence g.items.reverse
  return { alternatives := alternative :: g.alternatives }

def whole? (g : Group) : Option Item := do
  Item.gather? .oneOf (← g.bar?).alternatives.reverse

def repeat? (g : Group) (min : Nat) (max : Option Nat) (greedy : Bool) : Option Group :=
  match g.items with
  | [] => none
  | i :: items => do
    if !i.repeatable then none
    let i ← i.deepen?
    return { g with items := { i with pattern := i.pattern.times min max greedy } :: items }

end Group

/-- A group that is open around the one at hand: what was read before, the flags in force there,
and the number of the inner group, if it has one. -/
structure Enclosing where
  before : Group
  flags : Flags
  index : Option Nat

/-- What the reader keeps: the flags in force, the group at hand and those around it, and the number
and the names of the groups so far. -/
structure Reading where
  flags : Flags := {}
  group : Group := {}
  enclosing : List Enclosing := []
  groups : Nat := 0
  names : List String := []

namespace Reading

def add (r : Reading) (p : Pattern) (depth : Nat) : Reading :=
  { r with group := r.group.add ⟨p, depth, true⟩ }

def enter (r : Reading) (flags : Flags) : Reading :=
  { r with flags, group := {}, enclosing := ⟨r.group, r.flags, none⟩ :: r.enclosing }

def enterNumbered (r : Reading) : Reading :=
  { r with group := {}, groups := r.groups + 1
           enclosing := ⟨r.group, r.flags, some (r.groups + 1)⟩ :: r.enclosing }

/-- Closes the group at hand, whose flags end with it. -/
def leave? (r : Reading) : Option Reading :=
  match r.enclosing with
  | [] => none
  | e :: enclosing => do
    let inner ← (← r.group.whole?).deepen?
    let pattern := match e.index with
      | some index => .capture index inner.pattern
      | none => inner.pattern
    return { r with
      flags := e.flags, enclosing, group := e.before.add ⟨pattern, inner.depth, true⟩ }

def setFlags (r : Reading) (flags : Flags) : Reading :=
  { r with flags, group := r.group.add ⟨.empty, 0, false⟩ }

def finish? (r : Reading) : Option Pattern :=
  if r.enclosing.isEmpty then r.group.whole?.map Item.pattern else none

end Reading

/-! ## Flags and names -/

def Flags.set? (f : Flags) (on : Bool) : Char → Option Flags
  | 'i' => some { f with fold := on }
  | 'm' => some { f with lines := on }
  | 's' => some { f with dotAll := on }
  | 'R' => some { f with crlf := on }
  | 'u' => some { f with unicode := on }
  | 'x' => some { f with verbose := on }
  | 'U' => some { f with swap := on }
  | _ => none

/-- Reads flags up to a colon or a closing parenthesis, which is left. `used` holds the flags read,
of which none may come twice; a minus sign may come once and not last. -/
def readFlags (f : Flags) (on : Bool) (used : List Char) : List Char → Option (Flags × List Char)
  | [] => none
  | c :: cs =>
    if c = ':' ∨ c = ')' then
      if used.head? = some '-' then none else some (f, c :: cs)
    else if c = '-' then if on then readFlags f false ('-' :: used) cs else none
    else if used.contains c then none
    else match f.set? on c with
      | some f => readFlags f on (c :: used) cs
      | none => none

/-- Letters that the name of a group may start with, apart from the underscore. -/
def nameLetters : CharSet := Unicode.alphabetic.union Unicode.Additions.alphabetic

def nameChars : CharSet :=
  .unions [nameLetters, Unicode.inCategories ["Nd", "Nl", "No"], Unicode.Additions.numbers,
    .ofRanges [(0x2E, 0x2E), (0x5B, 0x5B), (0x5D, 0x5D)]]

/-- Reads the name of a group up to its closing angle bracket; `name` holds what was read, last
character first. -/
def readName (name : List Char) : List Char → Option (String × List Char)
  | [] => none
  | c :: cs =>
    let allowed := if name.isEmpty then nameLetters else nameChars
    if c = '>' then if name.isEmpty then none else some (String.ofList name.reverse, cs)
    else if c = '_' ∨ allowed.has c.toNat then readName (c :: name) cs
    else none

/-! ## Repetitions -/

/-- The digits that come next and what is left after them, where blanks between digits are skipped
if they have no meaning. -/
def takeDigits (f : Flags) : (fuel : Nat) → List Char → List Char × List Char
  | 0, cs => ([], cs)
  | fuel + 1, cs =>
    match cs with
    | [] => ([], [])
    | c :: rest =>
      if c.isDigit then
        let (digits, rest) := takeDigits f fuel (skip f rest)
        (c :: digits, rest)
      else ([], c :: rest)

/-- Drops blanks after a number, and comments if they have no meaning. -/
def dropSpaces (f : Flags) : (fuel : Nat) → List Char → List Char
  | 0, cs => cs
  | _ + 1, [] => []
  | fuel + 1, c :: cs => if Text.isBlank c then dropSpaces f fuel (skip f cs) else c :: cs

/-- Reads a decimal number below 2 to the power of 32, with blanks around it. -/
def readCount (f : Flags) (cs : List Char) : Option (Nat × List Char) :=
  let cs := cs.dropWhile Text.isBlank
  let (digits, rest) := takeDigits f (cs.length + 1) cs
  let n := Number.digitsValue digits
  if digits.isEmpty ∨ Nat.pow 2 32 ≤ n then none else some (n, dropSpaces f (rest.length + 1) rest)

def readBounds (f : Flags) (cs : List Char) : Option ((Nat × Option Nat) × List Char) := do
  let (min, rest) ← readCount f (skip f cs)
  match rest with
  | '\x7d' :: rest => return ((min, some min), rest)
  | ',' :: rest =>
    match skip f rest with
    | '\x7d' :: rest => return ((min, none), rest)
    | rest =>
      match ← readCount f rest with
      | (max, '\x7d' :: rest) => if min ≤ max then return ((min, some max), rest) else none
      | _ => none
  | _ => none

/-- Reads the question mark that makes a repetition try few turns first. -/
def readLazy : List Char → Bool × List Char
  | '?' :: cs => (true, cs)
  | cs => (false, cs)

/-! ## Reading -/

def readOpenGroup (r : Reading) (cs : List Char) : Option (Reading × List Char) :=
  let named (cs : List Char) := do
    let (name, rest) ← readName [] cs
    if r.names.contains name then none
    else return ({ r with names := name :: r.names }.enterNumbered, rest)
  match skip r.flags cs with
  | '?' :: 'P' :: '<' :: cs => named cs
  | '?' :: '<' :: c :: cs => if c = '=' ∨ c = '!' then none else named (c :: cs)
  | '?' :: cs =>
    match readFlags r.flags true [] cs with
    | some (flags, ':' :: rest) => some (r.enter flags, rest)
    | some (flags, _ :: rest) =>
      if cs.head? = some ')' then none else some (r.setFlags flags, rest)
    | _ => none
  | cs => some (r.enterNumbered, cs)

def readRepetition (r : Reading) (min : Nat) (max : Option Nat) (cs : List Char) :
    Option (Reading × List Char) := do
  let (few, rest) := readLazy cs
  return ({ r with group := ← r.group.repeat? min max (few == r.flags.swap) }, rest)

def readSymbol (r : Reading) (cs : List Char) : Option (Reading × List Char) := do
  match cs with
  | '.' :: cs => return (r.add (.ofSet (← dot? r.flags)) 0, cs)
  | '^' :: cs => return (r.add (.look (caret r.flags)) 0, cs)
  | '$' :: cs => return (r.add (.look (dollar r.flags)) 0, cs)
  | cs =>
    match ← readMember r.flags cs with
    | (.char c octet, cs) => return (r.add (← charPattern? r.flags c octet) 0, cs)
    | (.set s, cs) => return (r.add (.ofSet s) 0, cs)
    | (.look l, cs) => return (r.add (.look l) 0, cs)

/-- Reads the next part of an expression, which is not a blank. -/
def readPart (r : Reading) : List Char → Option (Reading × List Char)
  | '(' :: cs => readOpenGroup r cs
  | ')' :: cs => r.leave?.map (·, cs)
  | '|' :: cs => r.group.bar?.map fun group => ({ r with group }, cs)
  | '[' :: cs => do
    let (k, cs) ← readClass r.flags cs
    return (r.add (.ofSet k.set) k.depth, cs)
  | '*' :: cs => readRepetition r 0 none cs
  | '+' :: cs => readRepetition r 1 none cs
  | '?' :: cs => readRepetition r 0 (some 1) cs
  | '\x7b' :: cs => do
    if r.group.items.isEmpty then none
    let ((min, max), cs) ← readBounds r.flags cs
    readRepetition r min max (skip r.flags cs)
  | cs => readSymbol r cs

/-- Reads an expression to its end. Every turn takes a character, so that there is fuel for all. -/
def readFrom : (fuel : Nat) → Reading → List Char → Option Pattern
  | 0, _, _ => none
  | fuel + 1, r, cs =>
    match skip r.flags cs with
    | [] => r.finish?
    | cs => do
      let (r, cs) ← readPart r cs
      readFrom fuel r cs

def read? (source : String) : Option Pattern :=
  let cs := source.toList
  readFrom (cs.length + 1) {} cs

end Settle.Regex
