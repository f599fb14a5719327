import Settle.Yaml.Scan

/-!
# Events

A document as a sequence: scalars and aliases, and the starts and ends of lists and maps. The tokens
are read against a stack of what is expected next; where a node is missing an empty scalar stands.
-/

namespace Settle.Yaml

inductive Event where
  | alias (name : String)
  | scalar (anchor tag : Option String) (text : String) (style : Style)
  | startList (anchor : Option String)
  | endList
  | startMap (anchor : Option String)
  | endMap
  deriving DecidableEq, Repr, Inhabited

inductive Expected where
  /-- A node; one laid out by indentation only if `block` holds. The items of a list may start at
  the column of the key before, if `flush` holds. -/
  | node (block flush : Bool)
  /-- The next item, or the end, of a list that is laid out by indentation. -/
  | item
  | flushItem
  /-- The next key of a map, or its end, and the value of a key. -/
  | key
  | value
  /-- The same in brackets, where `first` tells that nothing was read yet. -/
  | bracketItem (first : Bool)
  | bracketKey (first : Bool)
  | bracketValue
  | pairKey
  | pairValue
  | emit (e : Event)
  deriving DecidableEq, Repr

abbrev Handles := List (String × String)

/-- The anchor and the tag of a node. -/
structure Properties where
  anchor : Option String := none
  tag : Option String := none

def fullTag? (handles : Handles) (handle suffix : String) : Option String :=
  if handle.isEmpty then some suffix else (handles.lookup handle).map (· ++ suffix)

/-- Reads the anchor and the tag of a node, in either order; whether there is one of them, too. -/
def readProperties (handles : Handles) :
    List Token → Option (Properties × Bool × List Token)
  | .anchor a :: .tag h s :: ts => do
    return ({ anchor := some a, tag := some (← fullTag? handles h s) }, true, ts)
  | .tag h s :: .anchor a :: ts => do
    return ({ anchor := some a, tag := some (← fullTag? handles h s) }, true, ts)
  | .anchor a :: ts => some ({ anchor := some a }, true, ts)
  | .tag h s :: ts => do return ({ tag := some (← fullTag? handles h s) }, true, ts)
  | ts => some ({}, false, ts)

def Event.missing : Event := .scalar none none "" .plain

/-- Whether no node starts with a token, so that one is missing before it. -/
def missesItem : List Token → Bool
  | .item :: _ => true
  | .blockEnd :: _ => true
  | _ => false

def missesFlushItem : List Token → Bool
  | .item :: _ => true
  | .key :: _ => true
  | .value :: _ => true
  | .blockEnd :: _ => true
  | _ => false

def missesPart : List Token → Bool
  | .key :: _ => true
  | .value :: _ => true
  | .blockEnd :: _ => true
  | _ => false

def nodeUnless (missing : Bool) (block flush : Bool) : Expected :=
  if missing then .emit .missing else .node block flush

/-- Reads what is expected of a node: what it emits, what is expected then, and the tokens left. -/
def readNode (handles : Handles) (block flush : Bool) (tokens : List Token) :
    Option (List Event × List Expected × List Token) :=
  match tokens with
  | .alias name :: ts => some ([.alias name], [], ts)
  | tokens => do
    let (p, any, tokens) ← readProperties handles tokens
    match tokens with
    | .scalar text style :: ts =>
      let tag := if p.tag = some "!" then none else p.tag
      return ([.scalar p.anchor tag text style], [], ts)
    | .openList :: ts => return ([.startList p.anchor], [.bracketItem true], ts)
    | .openMap :: ts => return ([.startMap p.anchor], [.bracketKey true], ts)
    | .item :: ts =>
      if flush then return ([.startList p.anchor], [.flushItem], .item :: ts)
      else if any then return ([.scalar p.anchor p.tag "" .plain], [], tokens)
      else none
    | .blockListStart :: ts =>
      if block then return ([.startList p.anchor], [.item], ts)
      else if any then return ([.scalar p.anchor p.tag "" .plain], [], tokens)
      else none
    | .blockMapStart :: ts =>
      if block then return ([.startMap p.anchor], [.key], ts)
      else if any then return ([.scalar p.anchor p.tag "" .plain], [], tokens)
      else none
    | ts => if any then return ([.scalar p.anchor p.tag "" .plain], [], ts) else none

def passComma (first : Bool) (tokens : List Token) : Option (List Token) :=
  match first, tokens with
  | true, ts => some ts
  | false, .comma :: ts => some ts
  | false, _ => none

/-- Reads what is expected: what it emits, what is expected then, and the tokens left. -/
def Expected.read (handles : Handles) (x : Expected) (tokens : List Token) :
    Option (List Event × List Expected × List Token) :=
  match x with
  | .emit e => some ([e], [], tokens)
  | .node block flush => readNode handles block flush tokens
  | .item =>
    match tokens with
    | .item :: ts => some ([], [nodeUnless (missesItem ts) true false, .item], ts)
    | .blockEnd :: ts => some ([.endList], [], ts)
    | _ => none
  | .flushItem =>
    match tokens with
    | .item :: ts => some ([], [nodeUnless (missesFlushItem ts) true false, .flushItem], ts)
    | ts => some ([.endList], [], ts)
  | .key =>
    match tokens with
    | .key :: ts => some ([], [nodeUnless (missesPart ts) true true, .value], ts)
    | .blockEnd :: ts => some ([.endMap], [], ts)
    | _ => none
  | .value =>
    match tokens with
    | .value :: ts => some ([], [nodeUnless (missesPart ts) true true, .key], ts)
    | ts => some ([.missing], [.key], ts)
  | .bracketItem first =>
    match tokens with
    | .closeList :: ts => some ([.endList], [], ts)
    | tokens => do
      match ← passComma first tokens with
      | .key :: ts => return ([.startMap none], [.pairKey, .pairValue, .emit .endMap,
          .bracketItem false], ts)
      | .closeList :: ts => return ([.endList], [], ts)
      | ts => return ([], [.node false false, .bracketItem false], ts)
  | .pairKey =>
    match tokens with
    | .value :: ts => some ([.missing], [], ts)
    | .comma :: ts => some ([.missing], [], ts)
    | .closeList :: ts => some ([.missing], [], ts)
    | ts => some ([], [.node false false], ts)
  | .pairValue =>
    match tokens with
    | .value :: .comma :: ts => some ([.missing], [], .comma :: ts)
    | .value :: .closeList :: ts => some ([.missing], [], .closeList :: ts)
    | .value :: ts => some ([], [.node false false], ts)
    | ts => some ([.missing], [], ts)
  | .bracketKey first =>
    match tokens with
    | .closeMap :: ts => some ([.endMap], [], ts)
    | tokens => do
      match ← passComma first tokens with
      | .key :: .value :: ts => return ([.missing], [.bracketValue], .value :: ts)
      | .key :: .comma :: ts => return ([.missing], [.bracketValue], .comma :: ts)
      | .key :: .closeMap :: ts => return ([.missing], [.bracketValue], .closeMap :: ts)
      | .key :: ts => return ([], [.node false false, .bracketValue], ts)
      | .closeMap :: ts => return ([.endMap], [], ts)
      | ts => return ([], [.node false false, .emit .missing, .bracketKey false], ts)
  | .bracketValue =>
    match tokens with
    | .value :: .comma :: ts => some ([.missing], [.bracketKey false], .comma :: ts)
    | .value :: .closeMap :: ts => some ([.missing], [.bracketKey false], .closeMap :: ts)
    | .value :: ts => some ([], [.node false false, .bracketKey false], ts)
    | ts => some ([.missing], [.bracketKey false], ts)

/-- Reads all that is expected: the events, last one first after those of before, and the tokens
left. -/
def readExpected (handles : Handles) : (fuel : Nat) → List Event → List Expected → List Token →
    Option (List Event × List Token)
  | _, events, [], tokens => some (events, tokens)
  | 0, _, _, _ => none
  | fuel + 1, events, x :: xs, tokens => do
    let (emitted, more, tokens) ← x.read handles tokens
    readExpected handles fuel (emitted.reverse ++ events) (more ++ xs) tokens

def defaultHandles : Handles := [("!", "!"), ("!!", "tag:yaml.org,2002:")]

/-- Reads the directives before a document: the version may be given once, and each handle may be
defined once. -/
def readDirectives (version : Bool) (handles : Handles) :
    List Token → Option (Handles × List Token)
  | .version major minor :: ts =>
    if version ∨ major ≠ 1 ∨ (minor ≠ 1 ∧ minor ≠ 2) then none
    else readDirectives true handles ts
  | .handle name full :: ts =>
    if (handles.lookup name).isSome then none
    else readDirectives version ((name, full) :: handles) ts
  | ts => some (handles ++ defaultHandles, ts)

/-- Reads the start of a document: the handles of its tags, whether it is marked, and the tokens
left. Directives are for marked documents only. -/
def readStart (tokens : List Token) : Option (Handles × Bool × List Token) := do
  let (handles, rest) ← readDirectives false [] tokens
  match tokens, rest with
  | _, .documentStart :: ts => return (handles, true, ts)
  | .version .. :: _, _ => none
  | .handle .. :: _, _ => none
  | _, ts => return (handles, false, ts)

def missesContent : List Token → Bool
  | [] => true
  | .version .. :: _ => true
  | .handle .. :: _ => true
  | .documentStart :: _ => true
  | .documentEnd :: _ => true
  | _ => false

/-- The events of the only document that tokens hold; there are none if there are no tokens. -/
def Event.ofTokens? : List Token → Option (List Event)
  | [] => some []
  | tokens => do
    let (handles, marked, tokens) ← readStart tokens
    let fuel := 4 * tokens.length + 4
    let x := nodeUnless (marked && missesContent tokens) true false
    let (events, rest) ← readExpected handles fuel [] [x] tokens
    if rest.all (· == .documentEnd) then return events.reverse else none

end Settle.Yaml
