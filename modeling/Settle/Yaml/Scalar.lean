import Settle.Unicode.Table
import Settle.Yaml.Cursor

/-!
# Scalars

Scalars are read from a cursor: quoted ones up to their closing quote, plain ones up to whatever
ends them, and block scalars as far as their lines are indented. Within quoted and plain scalars
blanks around a line break are dropped; one break becomes a space, and of several the first one is
dropped.
-/

namespace Settle.Yaml

/-! ## Folding -/

/-- A scalar being read, last character first, with the blanks and line breaks since that character:
the first break, if there was one, and the further ones. A break that is left out leaves a first one
without characters. -/
structure Fold where
  text : List Char := []
  blanks : List Char := []
  first : Option (List Char) := none
  further : List Char := []
  deriving DecidableEq, Repr

namespace Fold

def flush (f : Fold) : List Char :=
  match f.first with
  | none => f.blanks ++ f.text
  | some ['\n'] => if f.further.isEmpty then ' ' :: f.text else f.further ++ f.text
  | some b => f.further ++ b.reverse ++ f.text

def push (f : Fold) (c : Char) : Fold := { text := c :: f.flush }

def blank (f : Fold) (c : Char) : Fold :=
  if f.first.isSome then f else { f with blanks := c :: f.blanks }

def lineBreak (f : Fold) (b : List Char) : Fold :=
  match f.first with
  | none => { f with blanks := [], first := some b }
  | some _ => { f with further := b.reverse ++ f.further }

def joinLines (f : Fold) : Fold := { text := f.flush, first := some [] }

end Fold

/-- Reads blanks and line breaks. On a line of its own a tab must not stand before the column
`indent`. -/
def readGap (indent : Nat) : (fuel : Nat) → Fold → Cursor → Option (Fold × Cursor)
  | 0, f, k => some (f, k)
  | fuel + 1, f, k =>
    match k.rest with
    | [] => some (f, k)
    | c :: _ =>
      if isBreak c then
        let (b, next) := k.lineBreak
        readGap indent fuel (f.lineBreak b) next
      else if isSpace c then
        if f.first.isSome ∧ k.column < indent ∧ c = '\t' then none
        else readGap indent fuel (f.blank c) (k.past 1)
      else some (f, k)

/-! ## Quoted scalars -/

inductive Quote where
  | single
  | double
  deriving DecidableEq, Repr

def Quote.mark : Quote → Char
  | .single => '\''
  | .double => '"'

def simpleEscape? (c : Char) : Option Char :=
  match c with
  | '0' => some '\x00'
  | 'a' => some '\x07'
  | 'b' => some '\x08'
  | 't' | '\t' => some '\t'
  | 'n' => some '\n'
  | 'v' => some '\x0b'
  | 'f' => some '\x0c'
  | 'r' => some '\r'
  | 'e' => some '\x1b'
  | ' ' => some ' '
  | '"' => some '"'
  | '/' => some '/'
  | '\\' => some '\\'
  | 'N' => some '\u0085'
  | '_' => some '\u00a0'
  | 'L' => some '\u2028'
  | 'P' => some '\u2029'
  | _ => none

def codeLength? (c : Char) : Option Nat :=
  match c with
  | 'x' => some 2
  | 'u' => some 4
  | 'U' => some 8
  | _ => none

def hexValue? (cs : List Char) : Option Nat :=
  cs.foldlM (fun n c => (Unicode.hexDigit? c).map (n * 16 + ·)) 0

/-- Reads an escape after its backslash: the character and the number of characters that it is
written with. -/
def readEscape : List Char → Option (Char × Nat)
  | [] => none
  | c :: cs =>
    match codeLength? c with
    | none => (simpleEscape? c).map (·, 1)
    | some n => do
      let digits := cs.take n
      let value ← hexValue? digits
      if digits.length = n ∧ value.isValidChar then return (Char.ofNat value, n + 1) else none

def readQuotedFrom (q : Quote) : (fuel : Nat) → Fold → Cursor → Option (List Char × Cursor)
  | 0, _, _ => none
  | fuel + 1, f, k =>
    if k.atDocumentMarker then none
    else
      match q, k.rest with
      | _, [] => none
      | .single, '\'' :: '\'' :: _ => readQuotedFrom q fuel (f.push '\'') (k.past 2)
      | .double, '\\' :: c :: cs =>
        if isBreak c then readQuotedFrom q fuel f.joinLines (k.past 1).lineBreak.2
        else do
          let (d, n) ← readEscape (c :: cs)
          readQuotedFrom q fuel (f.push d) (k.past (n + 1))
      | _, c :: _ =>
        if c = q.mark then some (f.flush.reverse, k.past 1)
        else if isGap c then do
          let (f, k) ← readGap 0 k.left f k
          readQuotedFrom q fuel f k
        else readQuotedFrom q fuel (f.push c) (k.past 1)

def readQuoted (q : Quote) (k : Cursor) : Option (List Char × Cursor) :=
  readQuotedFrom q (k.left + 1) {} (k.past 1)

/-! ## Plain scalars -/

def isBracketMark (c : Char) : Bool := ",[]\x7b\x7d".toList.contains c

/-- Whether a plain scalar may start here; `brackets` tells whether it stands in brackets. -/
def startsPlain (brackets : Bool) : List Char → Bool
  | [] => false
  | c :: cs =>
    if c = '-' then !(cs.head?.map isSpace).getD false
    else if c = '?' ∨ c = ':' then !brackets && !atGap cs
    else !(isGap c || "#&*!|>'\"%@\x60,[]\x7b\x7d".toList.contains c)

/-- Reads the characters of a plain scalar up to a gap or what ends it: the scalar, and the number
of characters, to which those read before are added. In brackets a colon must not stand before one
of their marks. -/
def readWord (brackets : Bool) (f : Fold) (n : Nat) : List Char → Option (Fold × Nat)
  | [] => some (f, n)
  | c :: cs =>
    let follows (marks : String) := (cs.head?.map marks.toList.contains).getD false
    if isGap c then some (f, n)
    else if brackets ∧ c = ':' ∧ follows ",?[]\x7b\x7d" then none
    else if (c = ':' ∧ atGap cs) ∨ (brackets ∧ isBracketMark c) then some (f, n)
    else readWord brackets (f.push c) (n + 1) cs

/-- Reads a plain scalar; `indent` is the least column of its further lines. -/
def readPlainFrom (brackets : Bool) (indent : Nat) :
    (fuel : Nat) → Fold → Cursor → Option (Fold × Cursor)
  | 0, f, k => some (f, k)
  | fuel + 1, f, k =>
    if k.atDocumentMarker ∨ k.rest.head? = some '#' then some (f, k)
    else do
      let (f, n) ← readWord brackets f 0 k.rest
      let k := k.past n
      if !(k.rest.head?.map isGap).getD false then return (f, k)
      let (f, k) ← readGap indent k.left f k
      if !brackets ∧ k.column < indent then return (f, k)
      readPlainFrom brackets indent fuel f k

/-- A plain scalar at the cursor: its text, the cursor after it and the gap that follows it, and
whether there is a line break in that gap. -/
def readPlain (brackets : Bool) (indent : Nat) (k : Cursor) :
    Option (List Char × Cursor × Bool) := do
  let (f, k) ← readPlainFrom brackets indent (k.left + 1) {} k
  return (f.text.reverse, k, f.first.isSome)

/-! ## Block scalars -/

/-- What becomes of the line breaks at the end of a block scalar. -/
inductive Chomping where
  | strip
  | clip
  | keep
  deriving DecidableEq, Repr

def chomping? : Char → Option Chomping
  | '-' => some .strip
  | '+' => some .keep
  | _ => none

/-- Reads what follows the mark of a block scalar: how its end is treated and how far it is indented
more than what is around it, in either order. An indentation of zero is refused. -/
def readHeader (k : Cursor) : Option (Chomping × Option Nat × Cursor) :=
  let chomping (k : Cursor) : Chomping × Cursor :=
    match k.rest.head?.bind chomping? with
    | some c => (c, k.past 1)
    | none => (.clip, k)
  let increment (k : Cursor) : Option (Option Nat × Cursor) :=
    match k.rest with
    | '0' :: _ => none
    | c :: _ => if c.isDigit then some (some (c.toNat - 48), k.past 1) else some (none, k)
    | [] => some (none, k)
  let (c, next) := chomping k
  if next.index ≠ k.index then (increment next).map fun (n, k) => (c, n, k)
  else (increment k).map fun (n, k) =>
    match n with
    | none => (.clip, none, k)
    | some n => let (c, k) := chomping k; (c, some n, k)

/-- Reads empty lines and the indentation of the next line, as far as the column `indent` if it is
given: the line breaks, last one first, the greatest column reached, and the cursor. A tab must not
stand in place of an indentation. -/
def readEmptyLines (indent : Option Nat) : (fuel : Nat) → (breaks : List Char) → (widest : Nat) →
    Cursor → Option (List Char × Nat × Cursor)
  | 0, breaks, widest, k => some (breaks, widest, k)
  | fuel + 1, breaks, widest, k =>
    let spaces := (k.rest.takeWhile (· == ' ')).length
    let k := k.past (match indent with | some n => min spaces (n - k.column) | none => spaces)
    let widest := max widest k.column
    let indenting := match indent with | some n => decide (k.column < n) | none => true
    match k.rest with
    | c :: _ =>
      if indenting && c == '\t' then none
      else if isBreak c then
        let (b, k) := k.lineBreak
        readEmptyLines indent fuel (b.reverse ++ breaks) widest k
      else some (breaks, widest, k)
    | [] => some (breaks, widest, k)

/-- A block scalar being read, last character first: its text, the break that ends its last line,
the empty lines since then, and whether that line starts with a blank. -/
structure Lines where
  text : List Char := []
  last : List Char := []
  empty : List Char := []
  blank : Bool := false

/-- The text before the next line. Between two lines that do not start with a blank a line feed is
folded, unless the scalar is literal. -/
def Lines.join (isLiteral : Bool) (nextBlank : Bool) (l : Lines) : List Char :=
  if !isLiteral ∧ l.last = ['\n'] ∧ !l.blank ∧ !nextBlank then
    if l.empty.isEmpty then ' ' :: l.text else l.empty ++ l.text
  else l.empty ++ l.last ++ l.text

def readLines (isLiteral : Bool) (indent : Nat) :
    (fuel : Nat) → Lines → Cursor → Option (Lines × Cursor)
  | 0, l, k => some (l, k)
  | fuel + 1, l, k =>
    if k.column ≠ indent ∨ k.rest.isEmpty then some (l, k)
    else do
      let blank := (k.rest.head?.map isSpace).getD false
      let line := k.rest.takeWhile (!isBreak ·)
      let (b, k) := (k.past line.length).lineBreak
      let text := line.reverse ++ l.join isLiteral blank
      let (breaks, _, k) ← readEmptyLines (some indent) (k.left + 1) [] 0 k
      readLines isLiteral indent fuel { text, last := b, empty := breaks, blank } k

/-- Reads a block scalar at the cursor, which stands at its mark; `outer` is the column that what is
around it is indented to, if it is indented. -/
def readBlock (isLiteral : Bool) (outer : Option Nat) (k : Cursor) :
    Option (List Char × Cursor) := do
  let (chomping, increment, k) ← readHeader (k.past 1)
  let k := k.pastComment
  if !atLineEnd k.rest then none
  let k := k.lineBreak.2
  let least := match outer with | some n => n + 1 | none => 1
  let indent := increment.map fun n => (outer.getD 0) + n
  let (breaks, widest, k) ← readEmptyLines indent (k.left + 1) [] 0 k
  let indent := indent.getD (max widest least)
  let (l, k) ← readLines isLiteral indent (k.left + 1) { empty := breaks } k
  let text := match chomping with
    | .strip => l.text
    | .clip => l.last ++ l.text
    | .keep => l.empty ++ l.last ++ l.text
  return (text.reverse, k)

end Settle.Yaml
