import Settle.Yaml.Property
import Settle.Yaml.Scalar
import Settle.Yaml.Token

/-!
# The tokens of a document

Goes through a document once and gives its tokens. The column of what is read tells where lists and
maps begin and end that are laid out by indentation. What a colon follows is a key: its mark is put
before it when the colon is found, which must be on the same line and within 1024 characters.
-/

namespace Settle.Yaml

/-- What may turn out to be a key: the number of its first token and where it starts. It is required
to be one if nothing else may stand there. -/
structure KeyPlace where
  number : Nat
  index : Nat
  line : Nat
  column : Nat
  required : Bool
  deriving DecidableEq, Repr

/-- What is kept while the tokens are read. -/
structure Scan where
  cursor : Cursor
  tokens : List Token := []
  count : Nat := 0
  /-- The columns of the lists and maps laid out by indentation that are open, innermost first. -/
  indents : List Nat := []
  keyAllowed : Bool := true
  /-- What may be a key, within the innermost brackets and around each pair of brackets. -/
  key : Option KeyPlace := none
  outerKeys : List (Option KeyPlace) := []

namespace Scan

def inBrackets (s : Scan) : Bool := !s.outerKeys.isEmpty

def emit (s : Scan) (t : Token) : Scan := { s with tokens := t :: s.tokens, count := s.count + 1 }

def insert (s : Scan) (number : Nat) (t : Token) : Scan :=
  let after := s.count - number
  { s with tokens := s.tokens.take after ++ t :: s.tokens.drop after, count := s.count + 1 }

def past (s : Scan) (n : Nat) : Scan := { s with cursor := s.cursor.past n }

/-! ## Blanks -/

/-- Skips blanks, comments and line breaks. A tab counts as a blank in brackets and where no key may
start; after a line break one may start, unless in brackets. -/
def skipFrom (brackets : Bool) : (fuel : Nat) → (keyAllowed : Bool) → Cursor → Bool × Cursor
  | 0, keyAllowed, k => (keyAllowed, k)
  | fuel + 1, keyAllowed, k =>
    let k := if k.column = 0 ∧ (k.rest.head?.map isOrderMark).getD false then k.past 1 else k
    let k := k.pastWhile fun c => c == ' ' || ((brackets || !keyAllowed) && c == '\t')
    let k := if k.rest.head? = some '#' then k.pastWhile (!isBreak ·) else k
    if (k.rest.head?.map isBreak).getD false then
      skipFrom brackets fuel (keyAllowed || !brackets) k.lineBreak.2
    else (keyAllowed, k)

def skip (s : Scan) : Scan :=
  let (keyAllowed, cursor) := skipFrom s.inBrackets (s.cursor.left + 1) s.keyAllowed s.cursor
  { s with keyAllowed, cursor }

/-! ## Keys -/

def isStale (k : Cursor) (p : KeyPlace) : Bool := p.line < k.line || p.index + 1024 < k.index

/-- Forgets a place that is too far back; it must not be required. -/
def refresh? (k : Cursor) : Option KeyPlace → Option (Option KeyPlace)
  | none => some none
  | some p => if isStale k p then if p.required then none else some none else some (some p)

def dropStale? (s : Scan) : Option Scan := do
  return { s with
    key := ← refresh? s.cursor s.key, outerKeys := ← s.outerKeys.mapM (refresh? s.cursor) }

/-- Forgets the place where a key may have started; it must not be required. -/
def dropKey? (s : Scan) : Option Scan :=
  match s.key with
  | some p => if p.required then none else some { s with key := none }
  | none => some s

def markKey? (s : Scan) : Option Scan :=
  if !s.keyAllowed then some s
  else do
    let s ← s.dropKey?
    let required := !s.inBrackets && s.indents.head? == some s.cursor.column
    return { s with
      key := some ⟨s.count, s.cursor.index, s.cursor.line, s.cursor.column, required⟩ }

/-! ## Indentation -/

/-- Opens what is laid out by indentation at a column, unless it is open there already. Its token
goes before the token with a number, if one is given. -/
def indent (s : Scan) (column : Nat) (number : Option Nat) (t : Token) : Scan :=
  let deeper := match s.indents with
    | n :: _ => decide (n < column)
    | [] => true
  if s.inBrackets || !deeper then s
  else
    let s := { s with indents := column :: s.indents }
    match number with
    | some n => s.insert n t
    | none => s.emit t

/-- Closes as much of what is laid out by indentation as `p` holds of its columns. -/
def closeWhile (p : Nat → Bool) (s : Scan) : Scan :=
  if s.inBrackets then s
  else
    let closed := s.indents.takeWhile p
    { s with
      indents := s.indents.drop closed.length, count := s.count + closed.length
      tokens := List.replicate closed.length .blockEnd ++ s.tokens }

/-- A directive, or a line that divides documents: all that is indented ends. -/
def atTop? (s : Scan) : Option Scan := do
  return { ← (s.closeWhile fun _ => true).dropKey? with keyAllowed := false }

def documentMarker? (s : Scan) (t : Token) : Option Scan := do
  return ((← s.atTop?).past 3).emit t

def directive? (s : Scan) : Option Scan := do
  let s ← s.atTop?
  let (t, cursor) ← readDirective s.cursor
  return { s with cursor }.emit t

def open? (s : Scan) (t : Token) : Option Scan := do
  let s ← s.markKey?
  let outerKeys := s.key :: s.outerKeys
  return ({ s with key := none, outerKeys, keyAllowed := true }.past 1).emit t

def close? (s : Scan) (t : Token) : Option Scan := do
  let s ← s.dropKey?
  let s := match s.outerKeys with
    | key :: outerKeys => { s with key, outerKeys }
    | [] => s
  return ({ s with keyAllowed := false }.past 1).emit t

def comma? (s : Scan) : Option Scan := do
  return ({ ← s.dropKey? with keyAllowed := true }.past 1).emit .comma

def item? (s : Scan) : Option Scan := do
  if !s.inBrackets ∧ !s.keyAllowed then none
  let s ← (s.indent s.cursor.column none .blockListStart).dropKey?
  return ({ s with keyAllowed := true }.past 1).emit .item

def key? (s : Scan) : Option Scan := do
  if !s.inBrackets ∧ !s.keyAllowed then none
  let s ← (s.indent s.cursor.column none .blockMapStart).dropKey?
  return ({ s with keyAllowed := !s.inBrackets }.past 1).emit .key

/-- The colon of a value. What may be a key before it is one. -/
def value? (s : Scan) : Option Scan :=
  match s.key with
  | some p =>
    let s := (s.insert p.number .key).indent p.column (some p.number) .blockMapStart
    some (({ s with key := none, keyAllowed := false }.past 1).emit .value)
  | none =>
    if !s.inBrackets ∧ !s.keyAllowed then none
    else
      let s := s.indent s.cursor.column none .blockMapStart
      some (({ s with keyAllowed := !s.inBrackets }.past 1).emit .value)

def named? (s : Scan) (t : String → Token) : Option Scan := do
  let s ← s.markKey?
  let (name, cursor) ← readAnchor (s.cursor.past 1)
  return { s with cursor, keyAllowed := false }.emit (t name)

def tag? (s : Scan) : Option Scan := do
  let s ← s.markKey?
  let (handle, suffix, cursor) ← readTag s.inBrackets s.cursor
  return { s with cursor, keyAllowed := false }.emit (.tag handle suffix)

def block? (s : Scan) (style : Style) : Option Scan := do
  let s ← s.dropKey?
  let (text, cursor) ← readBlock (style == .literal) s.indents.head? s.cursor
  return { s with cursor, keyAllowed := true }.emit (.scalar (String.ofList text) style)

def quoted? (s : Scan) (q : Quote) : Option Scan := do
  let s ← s.markKey?
  let (text, cursor) ← readQuoted q s.cursor
  return { s with cursor, keyAllowed := false }.emit (.scalar (String.ofList text) .quoted)

def plain? (s : Scan) : Option Scan := do
  let s ← s.markKey?
  let least := match s.indents with
    | n :: _ => n + 1
    | [] => 0
  let (text, cursor, keyAllowed) ← readPlain s.inBrackets least s.cursor
  return { s with cursor, keyAllowed }.emit (.scalar (String.ofList text) .plain)

def token? (s : Scan) (c : Char) : Option Scan :=
  let gapNext := atGap (s.cursor.rest.drop 1)
  let atStart := s.cursor.column = 0
  if atStart ∧ c = '%' then s.directive?
  else if atStart ∧ atMarker "---" s.cursor.rest then s.documentMarker? .documentStart
  else if atStart ∧ atMarker "..." s.cursor.rest then s.documentMarker? .documentEnd
  else if c = '[' then s.open? .openList
  else if c = '\x7b' then s.open? .openMap
  else if c = ']' then s.close? .closeList
  else if c = '\x7d' then s.close? .closeMap
  else if c = ',' then s.comma?
  else if c = '-' ∧ gapNext then s.item?
  else if c = '?' ∧ (s.inBrackets ∨ gapNext) then s.key?
  else if c = ':' ∧ (s.inBrackets ∨ gapNext) then s.value?
  else if c = '*' then s.named? .alias
  else if c = '&' then s.named? .anchor
  else if c = '!' then s.tag?
  else if c = '|' ∧ !s.inBrackets then s.block? .literal
  else if c = '>' ∧ !s.inBrackets then s.block? .folded
  else if c = '\'' then s.quoted? .single
  else if c = '"' then s.quoted? .double
  else if startsPlain s.inBrackets s.cursor.rest then s.plain?
  else none

def finish? (s : Scan) : Option (List Token) := do
  return (← (s.closeWhile fun _ => true).dropKey?).tokens.reverse

/-- Reads tokens to the end. Every turn takes a character, so that there is fuel for all. -/
def run : (fuel : Nat) → Scan → Option (List Token)
  | 0, _ => none
  | fuel + 1, s => do
    let s ← s.skip.dropStale?
    let s := s.closeWhile (s.cursor.column < ·)
    match s.cursor.rest with
    | [] => s.finish?
    | c :: _ => run fuel (← s.token? c)

end Scan

/-- The tokens of a document, unless it holds a character that none may hold, or cannot be divided
into tokens. -/
def Token.ofText? (text : String) : Option (List Token) :=
  let cs := text.toList
  if cs.all isAllowed then Scan.run (cs.length + 2) { cursor := .start cs } else none

end Settle.Yaml
