/-!
# Places in a document

A cursor is what is left of a document, how many characters that are, and the place reached: how
many characters were read, the line and the column. Lines end with a carriage return, a line feed,
both, or one of the three further line breaks of Unicode.
-/

namespace Settle.Yaml

/-- What is left of a document, and the place reached. -/
structure Cursor where
  rest : List Char
  left : Nat
  index : Nat := 0
  line : Nat := 0
  column : Nat := 0
  deriving DecidableEq, Repr, Inhabited

def isSpace (c : Char) : Bool := c == ' ' || c == '\t'

def isBreak (c : Char) : Bool :=
  c == '\r' || c == '\n' || c == '\u0085' || c == '\u2028' || c == '\u2029'

def isGap (c : Char) : Bool := isSpace c || isBreak c

/-- The mark that tells the order of octets; it may start a line. -/
def isOrderMark (c : Char) : Bool := c == '\uFEFF'

def isNameChar (c : Char) : Bool := c.isAlphanum || c == '_' || c == '-'

def isAllowed (c : Char) : Bool :=
  let n := c.toNat
  c == '\t' || c == '\n' || c == '\r' || (0x20 ≤ n && n ≤ 0x7E) || n == 0x85
    || (0xA0 ≤ n && n ≤ 0xFFFD) || 0x10000 ≤ n

def atGap : List Char → Bool
  | [] => true
  | c :: _ => isGap c

def atLineEnd : List Char → Bool
  | [] => true
  | c :: _ => isBreak c

def atMarker (mark : String) (cs : List Char) : Bool :=
  mark.toList.isPrefixOf cs && atGap (cs.drop 3)

def atDocumentMarker (cs : List Char) : Bool := atMarker "---" cs || atMarker "..." cs

namespace Cursor

def start (cs : List Char) : Cursor := { rest := cs, left := cs.length }

/-- The cursor after `n` characters, none of which breaks the line. -/
def past (n : Nat) (k : Cursor) : Cursor :=
  { k with
    rest := k.rest.drop n, left := k.left - n, index := k.index + n, column := k.column + n }

/-- The cursor before `rest`, which comes after characters that do not break the line. -/
def goTo (k : Cursor) (rest : List Char) : Cursor := k.past (k.rest.length - rest.length)

def pastWhile (p : Char → Bool) (k : Cursor) : Cursor := k.past (k.rest.takeWhile p).length

/-- The cursor after a line break, if one comes next, and the break as it is read: all but the last
two stand for a line feed. -/
def lineBreak (k : Cursor) : List Char × Cursor :=
  let next (n : Nat) : Cursor :=
    { rest := k.rest.drop n, left := k.left - n, index := k.index + n, line := k.line + 1
      column := 0 }
  match k.rest with
  | '\r' :: '\n' :: _ => (['\n'], next 2)
  | c :: _ =>
    if c = '\u2028' ∨ c = '\u2029' then ([c], next 1)
    else if isBreak c then (['\n'], next 1)
    else ([], k)
  | [] => ([], k)

def pastComment (k : Cursor) : Cursor :=
  let k := k.pastWhile isSpace
  if k.rest.head? = some '#' then k.pastWhile (!isBreak ·) else k

def atDocumentMarker (k : Cursor) : Bool := k.column = 0 && Yaml.atDocumentMarker k.rest

end Cursor

end Settle.Yaml
