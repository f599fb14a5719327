import Settle.Unicode.Table
import Settle.Yaml.Cursor
import Settle.Yaml.Token

/-!
# Anchors, tags and directives

An anchor names a node so that an alias can stand for it; a tag tells its type. A tag is a handle,
which directives may define, and a suffix. Octets that are written in hexadecimal are kept as
characters of the same value.
-/

namespace Settle.Yaml

def readAnchor (k : Cursor) : Option (String × Cursor) :=
  let name := k.rest.takeWhile isNameChar
  let next := k.past name.length
  let ends := atGap next.rest ||
    (next.rest.head?.map "?:,]\x7d%@\x60".toList.contains).getD false
  if name.isEmpty ∨ !ends then none else some (String.ofList name, next)

/-- Characters of a tag. Within angle brackets there may be marks of lists, too. -/
def isTagChar (verbatim : Bool) (c : Char) : Bool :=
  isNameChar c || ";/?:@&=+$.%!~*'()".toList.contains c
    || (verbatim && ",[]".toList.contains c)

def octetCount? (n : Nat) : Option Nat :=
  if n < 0x80 then some 1
  else if n < 0xC0 then none
  else if n < 0xE0 then some 2
  else if n < 0xF0 then some 3
  else if n < 0xF8 then some 4
  else none

def readOctet : List Char → Option (Nat × List Char)
  | '%' :: a :: b :: cs => do
    return ((← Unicode.hexDigit? a) * 16 + (← Unicode.hexDigit? b), cs)
  | _ => none

def readOctets : (count : Nat) → List Char → Option (List Char × List Char)
  | 0, cs => some ([], cs)
  | count + 1, cs => do
    let (n, cs) ← readOctet cs
    let (more, cs) ← readOctets count cs
    if n / 64 = 2 then return (Char.ofNat n :: more, cs) else none

def readTagText (verbatim : Bool) : (fuel : Nat) → List Char → Option (List Char × List Char)
  | 0, cs => some ([], cs)
  | _ + 1, [] => some ([], [])
  | fuel + 1, c :: cs =>
    if c = '%' then do
      let (n, rest) ← readOctet (c :: cs)
      let (more, rest) ← readOctets ((← octetCount? n) - 1) rest
      let (text, rest) ← readTagText verbatim fuel rest
      return (Char.ofNat n :: more ++ text, rest)
    else if isTagChar verbatim c then
      (readTagText verbatim fuel cs).map fun (text, rest) => (c :: text, rest)
    else some ([], c :: cs)

/-- A text up to the first character of value zero, which ends it. -/
def untilNul (cs : List Char) : String := String.ofList (cs.takeWhile (· != '\x00'))

/-- Reads a tag handle: an exclamation mark, or a name between two. -/
def readHandle : List Char → Option (List Char × List Char)
  | '!' :: cs =>
    let name := cs.takeWhile isNameChar
    match cs.drop name.length with
    | '!' :: rest => some ('!' :: name ++ ['!'], rest)
    | rest => some ('!' :: name, rest)
  | _ => none

def isFullHandle (handle : List Char) : Bool := 1 < handle.length && handle.getLast? == some '!'

/-- Reads a tag at the cursor: its handle and its suffix. A tag in angle brackets has no handle, and
a lone exclamation mark is a suffix. In brackets a comma may follow. -/
def readTag (brackets : Bool) (k : Cursor) : Option (String × String × Cursor) := do
  let (handle, suffix, rest) ← match k.rest with
    | '!' :: '<' :: cs => do
      let (text, rest) ← readTagText true (cs.length + 1) cs
      match rest with
      | '>' :: rest => if text.isEmpty then none else some ("", untilNul text, rest)
      | _ => none
    | cs => do
      let (handle, rest) ← readHandle cs
      let (text, rest) ← readTagText false (rest.length + 1) rest
      if isFullHandle handle then
        if text.isEmpty then none else some (String.ofList handle, untilNul text, rest)
      else
        let suffix := untilNul (handle.drop 1 ++ text)
        if suffix.isEmpty then some ("", "!", rest) else some ("!", suffix, rest)
  if atGap rest ∨ (brackets ∧ rest.head? = some ',') then return (handle, suffix, k.goTo rest)
  else none

def readVersionNumber (k : Cursor) : Option (Nat × Cursor) :=
  let digits := k.rest.takeWhile Char.isDigit
  if digits.isEmpty ∨ 9 < digits.length then none
  else some (digits.foldl (fun n c => n * 10 + (c.toNat - 48)) 0, k.past digits.length)

def readVersion (k : Cursor) : Option (Token × Cursor) := do
  let (major, k) ← readVersionNumber (k.pastWhile isSpace)
  match k.rest with
  | '.' :: _ =>
    let (minor, k) ← readVersionNumber (k.past 1)
    return (.version major minor, k)
  | _ => none

def readHandleDirective (k : Cursor) : Option (Token × Cursor) := do
  let k := k.pastWhile isSpace
  let (handle, rest) ← readHandle k.rest
  if handle ≠ ['!'] ∧ !isFullHandle handle then none
  let k := k.goTo rest
  if !(k.rest.head?.map isSpace).getD false then none
  let k := k.pastWhile isSpace
  let (text, rest) ← readTagText true (k.rest.length + 1) k.rest
  if text.isEmpty ∨ !atGap rest then none
  return (.handle (String.ofList handle) (untilNul text), k.goTo rest)

/-- Reads a directive at the cursor, which stands at its percent sign. -/
def readDirective (k : Cursor) : Option (Token × Cursor) := do
  let k := k.past 1
  let name := k.rest.takeWhile isNameChar
  let k := k.past name.length
  if !atGap k.rest then none
  let (token, k) ←
    if name = "YAML".toList then readVersion k
    else if name = "TAG".toList then readHandleDirective k
    else none
  let k := k.pastComment
  if !atLineEnd k.rest then none
  return (token, k.lineBreak.2)

end Settle.Yaml
