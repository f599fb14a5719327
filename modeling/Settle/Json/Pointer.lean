import Settle.Json.Value
import Settle.Text.Search
import Settle.Number.Reading

/-!
# JSON pointers

A pointer is empty, for the whole document, or a sequence of tokens that each follow a slash. In a
token `~1` stands for a slash and `~0` for a tilde, and `~1` is read first; other tildes stand for
themselves. A token selects the member of an object, or the item of an array by an index without
sign and without a leading zero.
-/

namespace Settle.Json

open Settle.Text (splitAll)

def replaceTilde (digit replacement : Char) : List Char → List Char
  | '~' :: c :: cs =>
    if c = digit then replacement :: replaceTilde digit replacement cs
    else '~' :: replaceTilde digit replacement (c :: cs)
  | c :: cs => c :: replaceTilde digit replacement cs
  | [] => []

def pointerKey (token : List Char) : String :=
  String.ofList (replaceTilde '0' '~' (replaceTilde '1' '/' token))

def arrayIndex? (key : String) : Option Nat :=
  match key.toList with
  | '+' :: _ => none
  | '0' :: _ :: _ => none
  | _ => (Number.readNat (Nat.pow 2 64) key).toOption

def Value.step? (key : String) : Value → Option Value
  | .object members => members.lookup key
  | .array items => (arrayIndex? key).bind fun i => items[i]?
  | _ => none

def Value.pointer? (pointer : String) (v : Value) : Option Value :=
  match pointer.toList with
  | [] => some v
  | '/' :: cs => ((splitAll '/' cs).map pointerKey).foldlM (fun v key => v.step? key) v
  | _ => none

end Settle.Json
