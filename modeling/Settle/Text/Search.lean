/-!
# Searching for a fixed sequence

`occurs needle hay` says whether `needle` stands somewhere in `hay`. It works on any list, so the
same search serves texts and raw bytes.
-/

namespace Settle.Text

def occurs {α : Type} [BEq α] (needle : List α) : List α → Bool
  | [] => needle.isEmpty
  | x :: hay => needle.isPrefixOf (x :: hay) || occurs needle hay

def contains (text needle : String) : Bool :=
  occurs needle.toList text.toList

theorem occurs_iff_isInfix {α : Type} [BEq α] [LawfulBEq α] {needle hay : List α} :
    occurs needle hay = true ↔ needle <:+: hay := by
  induction hay with
  | nil => simp [occurs]
  | cons x hay ih => simp [occurs, List.infix_cons_iff, ih]

/-- The part before the first `c` and the part after it, if there is a `c`. -/
def cutAt (c : Char) : List Char → Option (List Char × List Char)
  | [] => none
  | d :: ds => if d = c then some ([], ds) else (cutAt c ds).map fun (a, b) => (d :: a, b)

def splitOnce (c : Char) (text : String) : Option (String × String) :=
  (cutAt c text.toList).map fun (a, b) => (String.ofList a, String.ofList b)

theorem cutAt_eq_none {c : Char} {cs : List Char} : cutAt c cs = none ↔ c ∉ cs := by
  induction cs with
  | nil => simp [cutAt]
  | cons d ds ih =>
    by_cases h : d = c
    · simp [cutAt, h]
    · simp [cutAt, h, ih, Ne.symm h]

theorem splitOnce_eq_none {c : Char} {text : String} :
    splitOnce c text = none ↔ c ∉ text.toList := by
  simp [splitOnce, cutAt_eq_none]

/-- The parts of a list between its elements equal to `c`; one more than there are such
elements. -/
def splitAll (c : Char) : List Char → List (List Char)
  | [] => [[]]
  | d :: ds =>
    match splitAll c ds with
    | [] => [[d]]
    | part :: parts => if d = c then [] :: part :: parts else (d :: part) :: parts

end Settle.Text
