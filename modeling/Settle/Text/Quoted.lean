import Settle.Unicode.Display

/-!
# Quoted texts

`quote` writes a text between double quotes so that every character can be told: quotes and
backslashes are escaped, and so is every character that does not show as itself or that would join
the one before it.
-/

namespace Settle.Text

open Settle.Unicode (isVisible)

def hexadecimal (n : Nat) : List Char := Nat.toDigits 16 n

def quoteChar (c : Char) : List Char :=
  if c = '"' then ['\\', '"']
  else if c = '\\' then ['\\', '\\']
  else if c = '\n' then ['\\', 'n']
  else if c = '\r' then ['\\', 'r']
  else if c = '\t' then ['\\', 't']
  else if c = '\x00' then ['\\', '0']
  else if !isVisible c then
    '\\' :: 'u' :: '\x7b' :: hexadecimal c.toNat ++ ['\x7d']
  else [c]

def quote (text : String) : String :=
  String.ofList ('"' :: text.toList.flatMap quoteChar ++ ['"'])

end Settle.Text
