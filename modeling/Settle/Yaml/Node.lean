import Settle.Yaml.Event

/-!
# Nodes

A document as a tree: scalars with the information how they were written, lists, and maps whose
entries keep their order. An alias stands for the node that has its anchor, which may lie around the
alias itself; what it stands for is looked up when the node is read. What a scalar means is up to
whoever reads it.

An anchor gets the number of anchors with other names so far. Where a name is used again numbers may
collide; then the node that starts later counts.
-/

namespace Settle.Yaml

inductive Node where
  | scalar (text : String) (style : Style) (tag : Option String)
  | list (items : List Node)
  | map (entries : List (Node × Node))
  | alias (anchor : Nat)
  deriving Repr, Inhabited

/-- A document: its node, and the nodes with an anchor by the number of the anchor. -/
structure Document where
  root : Node
  anchored : List (Nat × Node)
  deriving Inhabited

namespace Node

def nothing : Node := .scalar "" .plain none

def isNothing : Node → Bool
  | .scalar text style _ => text.isEmpty && style == .plain
  | _ => false

def pairs : List Node → List (Node × Node)
  | key :: value :: rest => (key, value) :: pairs rest
  | _ => []

end Node

/-- The anchors so far: the number of each name, the node that each number means, told by its place
among the nodes with an anchor, and these nodes as far as they are complete. -/
structure Anchors where
  numbers : List (String × Nat) := []
  owners : List (Nat × Nat) := []
  nodes : List (Nat × Node) := []
  count : Nat := 0

namespace Anchors

/-- The anchors after a node begins, and the place of the node, if it has an anchor. -/
def enter (a : Anchors) : Option String → Anchors × Option Nat
  | none => (a, none)
  | some name =>
    let others := a.numbers.filter (·.1 != name)
    let number := a.numbers.length
    ({ a with
      numbers := (name, number) :: others
      owners := (number, a.count) :: a.owners.filter (·.1 != number)
      count := a.count + 1 }, some a.count)

def complete (a : Anchors) (place : Option Nat) (n : Node) : Anchors :=
  match place with
  | some i => { a with nodes := (i, n) :: a.nodes }
  | none => a

def anchored (a : Anchors) : List (Nat × Node) :=
  a.owners.filterMap fun (number, place) => (a.nodes.lookup place).map (number, ·)

end Anchors

/-- A list or a map that is being built: the place of its anchor and its parts, last one first. -/
structure Frame where
  isMap : Bool
  place : Option Nat
  parts : List Node := []

/-- The collections that are open, innermost first, the anchors, and the whole once it is
complete. -/
structure Building where
  frames : List Frame := []
  anchors : Anchors := {}
  root : Option Node := none

namespace Building

def add (b : Building) (place : Option Nat) (n : Node) : Building :=
  let b := { b with anchors := b.anchors.complete place n }
  match b.frames with
  | [] => { b with root := some n }
  | f :: frames => { b with frames := { f with parts := n :: f.parts } :: frames }

def enter (b : Building) (isMap : Bool) (anchor : Option String) : Building :=
  let (anchors, place) := b.anchors.enter anchor
  { b with anchors, frames := { isMap, place } :: b.frames }

def leave (b : Building) : Building :=
  match b.frames with
  | [] => b
  | f :: frames =>
    let parts := f.parts.reverse
    { b with frames }.add f.place (if f.isMap then .map (Node.pairs parts) else .list parts)

/-- Takes one event. An alias must stand after the start of the node that it stands for. -/
def step (b : Building) : Event → Option Building
  | .alias name => (b.anchors.numbers.lookup name).map fun number => b.add none (.alias number)
  | .scalar anchor tag text style =>
    let (anchors, place) := b.anchors.enter anchor
    some ({ b with anchors }.add place (.scalar text style tag))
  | .startList anchor => some (b.enter false anchor)
  | .startMap anchor => some (b.enter true anchor)
  | .endList => some b.leave
  | .endMap => some b.leave

end Building

/-- The document that events describe; if there are none there is nothing in it. -/
def Document.ofEvents? (events : List Event) : Option Document := do
  let b ← events.foldlM Building.step {}
  return ⟨b.root.getD .nothing, b.anchors.anchored⟩

def Document.ofText? (text : String) : Option Document := do
  Document.ofEvents? (← Event.ofTokens? (← Token.ofText? text))

/-- The node itself, or the one that it is an alias of. -/
def Document.resolve (d : Document) : Node → Node
  | .alias number => (d.anchored.lookup number).getD .nothing
  | n => n

end Settle.Yaml
