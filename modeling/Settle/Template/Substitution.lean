import Settle.Association

/-!
# Substitution of placeholders

A placeholder is a key in braces after a dollar sign; a key starts with a letter or an underscore
and goes on with letters, digits and underscores, all of them ASCII. A text is read as a sequence of
pieces, single characters and placeholders. Values are put in as they are and not read again.
-/

namespace Settle.Template

inductive Piece where
  | char (c : Char)
  | placeholder (key : String)
  deriving DecidableEq, Repr

def isKeyStart (c : Char) : Bool := c.isAlpha || c == '_'

def isKeyChar (c : Char) : Bool := c.isAlphanum || c == '_'

def isKey : List Char → Bool
  | [] => false
  | c :: cs => isKeyStart c && cs.all isKeyChar

/-- The key in braces at the start of what follows a dollar sign, and what comes after it. -/
def bracedKey? : List Char → Option (String × List Char)
  | '\x7b' :: cs =>
    let key := cs.takeWhile isKeyChar
    match cs.dropWhile isKeyChar with
    | '\x7d' :: rest => if isKey key then some (String.ofList key, rest) else none
    | _ => none
  | _ => none

theorem length_of_bracedKey? {cs rest : List Char} {key : String}
    (h : bracedKey? cs = some (key, rest)) : rest.length < cs.length := by
  unfold bracedKey? at h
  split at h
  · rename_i cs
    dsimp only at h
    split at h
    · rename_i tail heq
      have hle := (List.dropWhile_suffix (l := cs) isKeyChar).length_le
      split at h
      · rw [heq] at hle
        simp only [Option.some.injEq, Prod.mk.injEq] at h
        simp only [List.length_cons] at hle ⊢
        rw [← h.2]
        omega
      · cases h
    · cases h
  · cases h

def pieces : List Char → List Piece
  | [] => []
  | c :: cs =>
    if c = '$' then
      match h : bracedKey? cs with
      | some (key, rest) =>
        have := length_of_bracedKey? h
        .placeholder key :: pieces rest
      | none => .char c :: pieces cs
    else .char c :: pieces cs
termination_by cs => cs.length
decreasing_by all_goals rw [List.length_cons]; omega

/-- The text of a piece; placeholders that have no value are left out. -/
def Piece.fill (params : List (String × String)) : Piece → List Char
  | .char c => [c]
  | .placeholder key => ((params.lookup key).getD "").toList

def Piece.missing? (params : List (String × String)) : Piece → Option String
  | .char _ => none
  | .placeholder key => if (params.lookup key).isSome then none else some key

/-- Puts values in for all placeholders, or gives the first key that has none. -/
def substitute (params : List (String × String)) (text : String) : Except String String :=
  let ps := pieces text.toList
  match ps.findSome? (Piece.missing? params) with
  | some key => .error key
  | none => .ok (String.ofList (ps.flatMap (Piece.fill params)))

end Settle.Template
