/-!
# Blank characters, trimming and words

A character is blank when it has the Unicode property `White_Space`. Trimming removes blanks at
both ends; the words of a text are its maximal runs of characters that are not blank.
-/

namespace Settle.Text

/-- The characters with the Unicode property `White_Space`. -/
def isBlank (c : Char) : Bool :=
  let n := c.toNat
  (9 ≤ n && n ≤ 13) || n == 0x20 || n == 0x85 || n == 0xA0 || n == 0x1680
    || (0x2000 ≤ n && n ≤ 0x200A) || n == 0x2028 || n == 0x2029 || n == 0x202F || n == 0x205F
    || n == 0x3000

/-- The list without its longest final run of elements that satisfy `p`. -/
def dropEndWhile {α : Type} (p : α → Bool) (xs : List α) : List α :=
  (xs.reverse.dropWhile p).reverse

def trim (text : String) : String :=
  String.ofList (dropEndWhile isBlank (text.toList.dropWhile isBlank))

def trimEnd (text : String) : String :=
  String.ofList (dropEndWhile isBlank text.toList)

/-- Words of `cs`, where `word` holds the characters of the word being read, last one first. -/
def wordsFrom (word : List Char) : List Char → List (List Char)
  | [] => if word.isEmpty then [] else [word.reverse]
  | c :: cs =>
    if isBlank c then
      if word.isEmpty then wordsFrom [] cs else word.reverse :: wordsFrom [] cs
    else wordsFrom (c :: word) cs

/-- The maximal runs of characters that are not blank, in order. -/
def words (text : String) : List String :=
  (wordsFrom [] text.toList).map String.ofList

theorem wordsFrom_flatten (word cs : List Char) :
    (wordsFrom word cs).flatten = word.reverse ++ cs.filter (fun c => !isBlank c) := by
  induction cs generalizing word with
  | nil => cases word <;> simp [wordsFrom]
  | cons c cs ih =>
    by_cases hc : isBlank c = true
    · cases word <;> simp [wordsFrom, hc, ih]
    · simp [wordsFrom, hc, ih]

end Settle.Text
