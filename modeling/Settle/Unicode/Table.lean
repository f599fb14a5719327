import Settle.Unicode.CharSet

/-!
# Tables over the code points

The properties of characters are kept as text. A run table splits all code points into runs with one
tag each; a range table lists the code points of a set.

- A run is its length in lower-case hexadecimal digits, left out when it is one, and then a tag of
  fixed width whose first letter is a capital.
- A range is one code point, or two with a hyphen between, in hexadecimal; two with a slash between
  are the ends of a range of which every second code point is meant. Blanks separate ranges.
-/

namespace Settle.Unicode

def hexDigit? (c : Char) : Option Nat :=
  if '0' ≤ c ∧ c ≤ '9' then some (c.toNat - 48)
  else if 'a' ≤ c ∧ c ≤ 'f' then some (c.toNat - 87)
  else if 'A' ≤ c ∧ c ≤ 'F' then some (c.toNat - 55)
  else none

/-- The first code point of a run and its tag. -/
structure Run where
  start : Nat
  tag : String

/-- Reads runs with tags of `width` letters. `start` is the first code point of the next run and
`length` the digits read of its length; `tag` holds the letters read of a tag, last one first, and
`runs` the runs read, likewise. -/
def readRunsFrom (width : Nat) (start : Nat) (length : Option Nat) (tag : List Char)
    (runs : List Run) : List Char → List Run
  | [] => runs.reverse
  | c :: cs =>
    if tag.isEmpty && !c.isUpper then
      readRunsFrom width start (some (length.getD 0 * 16 + (hexDigit? c).getD 0)) [] runs cs
    else if tag.length + 1 == width then
      readRunsFrom width (start + length.getD 1) none []
        (⟨start, String.ofList (c :: tag).reverse⟩ :: runs) cs
    else readRunsFrom width start length (c :: tag) runs cs

/-- Reads runs with tags of `width` letters, in ascending order. -/
def readRuns (width : Nat) (text : String) : List Run :=
  readRunsFrom width 0 none [] [] text.toList

/-- The bounds of the runs whose tags satisfy `p`, where `inside` tells whether the run before
does. -/
def selectBounds (p : String → Bool) (inside : Bool) : List Run → List Nat
  | [] => putBound inside 0x110000 []
  | r :: rs => putBound (inside != p r.tag) r.start (selectBounds p (p r.tag) rs)

/-- The code points of the runs whose tags satisfy `p`. -/
def selectRuns (p : String → Bool) (runs : List Run) : CharSet := ⟨selectBounds p false runs⟩

def hexNumber (text : String) : Nat :=
  text.toList.foldl (fun n c => n * 16 + (hexDigit? c).getD 0) 0

def readRange (word : String) : List (Nat × Nat) :=
  match word.splitOn "-", word.splitOn "/" with
  | [low, high], _ => [(hexNumber low, hexNumber high)]
  | _, [low, high] =>
    (List.range ((hexNumber high - hexNumber low) / 2 + 1)).map fun i =>
      (hexNumber low + 2 * i, hexNumber low + 2 * i)
  | _, _ => [(hexNumber word, hexNumber word)]

def readRanges (text : String) : CharSet := .ofRanges ((text.splitOn " ").flatMap readRange)

end Settle.Unicode
