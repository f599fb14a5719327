import Settle.Regex.Symbol

/-!
# Classes in brackets

A class lists characters, ranges, escapes, named classes and further classes. The operators `&&`,
`--` and `~~` combine what was listed before and after them, from the left. Classes that are open
are kept on a stack; the depth of a class is how far its parts are nested.
-/

namespace Settle.Regex

open Settle.Unicode (CharSet)

def depthLimit : Nat := 250

inductive SetOp where
  | inter | diff | symmDiff
  deriving DecidableEq, Repr

/-- Combines two sets. When case is ignored the variants are added before. -/
def SetOp.apply (f : Flags) (op : SetOp) (s t : CharSet) : CharSet :=
  match op with
  | .inter => (foldSet f s).inter (foldSet f t)
  | .diff => (foldSet f s).diff (foldSet f t)
  | .symmDiff => (foldSet f s).symmDiff (foldSet f t)

/-- A set and the depth of what denotes it. -/
structure Operand where
  set : CharSet
  depth : Nat
  deriving DecidableEq, Repr

/-- A class that is being read. -/
structure Class where
  negated : Bool := false
  /-- What stands before the last operator, and the operator. -/
  pending : Option (Operand × SetOp) := none
  /-- The items since the last operator: how many, their union, and the greatest depth. -/
  count : Nat := 0
  set : CharSet := .empty
  depth : Nat := 0
  deriving Repr

namespace Class

def add (k : Class) (item : Operand) : Class :=
  { k with count := k.count + 1, set := k.set.union item.set, depth := max k.depth item.depth }

def addSet (k : Class) (s : CharSet) : Class := k.add ⟨s, 0⟩

def addChar (k : Class) (c : Char) : Class := k.addSet (.single c.toNat)

/-- The items since the last operator; several make up a level of their own. -/
def items (k : Class) : Operand := ⟨k.set, if k.count ≤ 1 then k.depth else k.depth + 1⟩

def combined (f : Flags) (k : Class) : Operand :=
  match k.pending with
  | none => k.items
  | some (a, op) => ⟨op.apply f a.set k.items.set, max a.depth k.items.depth + 1⟩

def operator (f : Flags) (op : SetOp) (k : Class) : Class :=
  { negated := k.negated, pending := some (k.combined f, op) }

def close? (f : Flags) (k : Class) : Option Operand := do
  let inner := k.combined f
  let s ← negate? f k.negated (foldSet f inner.set)
  if depthLimit ≤ inner.depth then none else return ⟨s, inner.depth + 1⟩

end Class

/-! ## Items -/

def asciiClass? (name : String) : Option CharSet :=
  match name with
  | "alnum" => some (.ofRanges [(0x30, 0x39), (0x41, 0x5A), (0x61, 0x7A)])
  | "alpha" => some (.ofRanges [(0x41, 0x5A), (0x61, 0x7A)])
  | "ascii" => some (.range 0 0x7F)
  | "blank" => some (.ofRanges [(0x09, 0x09), (0x20, 0x20)])
  | "cntrl" => some (.ofRanges [(0, 0x1F), (0x7F, 0x7F)])
  | "digit" => some asciiDigits
  | "graph" => some (.range 0x21 0x7E)
  | "lower" => some (.range 0x61 0x7A)
  | "print" => some (.range 0x20 0x7E)
  | "punct" => some (.ofRanges [(0x21, 0x2F), (0x3A, 0x40), (0x5B, 0x60), (0x7B, 0x7E)])
  | "space" => some asciiBlanks
  | "upper" => some (.range 0x41 0x5A)
  | "word" => some asciiWords
  | "xdigit" => some (.ofRanges [(0x30, 0x39), (0x41, 0x46), (0x61, 0x66)])
  | _ => none

/-- Reads a class between colons after its bracket, if there is one, and whether its complement is
meant. -/
def readAsciiClass (cs : List Char) : Option (CharSet × Bool × List Char) :=
  match cs with
  | ':' :: cs =>
    let (negated, cs) := match cs with
      | '^' :: cs => (true, cs)
      | cs => (false, cs)
    match cs.dropWhile (· ≠ ':') with
    | ':' :: ']' :: rest =>
      (asciiClass? (String.ofList (cs.takeWhile (· ≠ ':')))).map (·, negated, rest)
    | _ => none
  | _ => none

def readMember (f : Flags) : List Char → Option (Symbol × List Char)
  | [] => none
  | '\\' :: cs => readEscape f cs
  | c :: cs => some (.char c false, cs)

/-- A character of a class; without Unicode it must be an ASCII character. -/
def member? (f : Flags) : Symbol → Option Char
  | .char c _ => if f.unicode || c.toNat < 128 then some c else none
  | _ => none

def symbolSet? (f : Flags) : Symbol → Option CharSet
  | .set s => some s
  | .look _ => none
  | symbol => (member? f symbol).map fun c => .single c.toNat

/-- Reads a symbol, or a range between two characters. A hyphen before the closing bracket or before
another hyphen does not make a range. -/
def readItem (f : Flags) (cs : List Char) : Option (CharSet × List Char) := do
  let (low, rest) ← readMember f cs
  match skip f rest with
  | [] => none
  | '-' :: more =>
    if peek f more = some ']' ∨ peek f more = some '-' then
      return (← symbolSet? f low, '-' :: more)
    else
      let (high, rest) ← readMember f (skip f more)
      let low ← member? f low
      let high ← member? f high
      if low ≤ high then return (.range low.toNat high.toNat, rest) else none
  | rest => return (← symbolSet? f low, rest)

/-! ## Reading a class -/

/-- Takes the hyphens at the start of a class, which stand for themselves. -/
def readHyphens (f : Flags) (k : Class) : (fuel : Nat) → List Char → Class × List Char
  | 0, cs => (k, cs)
  | fuel + 1, cs =>
    match skip f cs with
    | '-' :: cs => readHyphens f (k.addChar '-') fuel cs
    | cs => (k, cs)

/-- Reads the start of a class after its bracket. A closing bracket that comes first stands for
itself. -/
def readOpening (f : Flags) (cs : List Char) : Class × List Char :=
  let (negated, cs) := match skip f cs with
    | '^' :: cs => (true, cs)
    | cs => (false, cs)
  let (k, cs) := readHyphens f { negated } cs.length cs
  match k.count, skip f cs with
  | 0, ']' :: cs => (k.addChar ']', cs)
  | _, cs => (k, cs)

/-- Reads on in the class `k` up to its closing bracket; `outer` are the classes that it is nested
in. Every turn takes a character, so that there is fuel for all. -/
def readClassFrom (f : Flags) : (fuel : Nat) → (k : Class) → (outer : List Class) → List Char →
    Option (Operand × List Char)
  | 0, _, _, _ => none
  | fuel + 1, k, outer, cs =>
    match skip f cs with
    | [] => none
    | ']' :: cs => do
      let closed ← k.close? f
      match outer with
      | [] => return (closed, cs)
      | parent :: outer => readClassFrom f fuel (parent.add closed) outer cs
    | '[' :: cs =>
      match readAsciiClass cs with
      | some (s, negated, cs) => do
        readClassFrom f fuel (k.addSet (← negate? f negated (foldSet f s))) outer cs
      | none =>
        let (inner, cs) := readOpening f cs
        readClassFrom f fuel inner (k :: outer) cs
    | '&' :: '&' :: cs => readClassFrom f fuel (k.operator f .inter) outer cs
    | '-' :: '-' :: cs => readClassFrom f fuel (k.operator f .diff) outer cs
    | '~' :: '~' :: cs => readClassFrom f fuel (k.operator f .symmDiff) outer cs
    | cs => do
      let (s, cs) ← readItem f cs
      readClassFrom f fuel (k.addSet s) outer cs

def readClass (f : Flags) (cs : List Char) : Option (Operand × List Char) :=
  let (k, cs) := readOpening f cs
  readClassFrom f (cs.length + 1) k [] cs

end Settle.Regex
