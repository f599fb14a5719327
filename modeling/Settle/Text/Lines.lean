/-!
# Lines of a text

Lines end at a line feed. A carriage return just before the line feed belongs to the line's end,
not to the line. A text that ends with a line feed has no further, empty line after it.
-/

namespace Settle.Text

/-- The line whose characters are in `rev`, last one first, when a line feed ends it. -/
def endedLine : List Char → List Char
  | '\r' :: rev => rev.reverse
  | rev => rev.reverse

/-- Lines of `cs`, where `rev` holds the characters of the current line, last one first. -/
def linesFrom (rev : List Char) : List Char → List (List Char)
  | [] => if rev.isEmpty then [] else [rev.reverse]
  | c :: cs => if c = '\n' then endedLine rev :: linesFrom [] cs else linesFrom (c :: rev) cs

def lines (text : String) : List String :=
  (linesFrom [] text.toList).map String.ofList

end Settle.Text
