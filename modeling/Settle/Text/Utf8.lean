/-!
# Reading bytes as UTF-8

`decodeLossy` reads any bytes as text: well-formed sequences give their characters, and every
maximal part that cannot be the start of a well-formed sequence gives one U+FFFD.
-/

namespace Settle.Text.Utf8

def replacement : Char := '\uFFFD'

def payload (b : UInt8) : Nat := b.toNat % 64

/-- How a leading byte begins: how many continuations follow it, the bounds on the first one, and
the bits that the leading byte gives. `none` for a byte that begins nothing. -/
def lead (b : UInt8) : Option (Nat × UInt8 × UInt8 × Nat) :=
  if b < 0x80 then some (0, 0x80, 0xBF, b.toNat)
  else if 0xC2 ≤ b && b ≤ 0xDF then some (1, 0x80, 0xBF, b.toNat % 32)
  else if b == 0xE0 then some (2, 0xA0, 0xBF, 0)
  else if b == 0xED then some (2, 0x80, 0x9F, 13)
  else if 0xE1 ≤ b && b ≤ 0xEF then some (2, 0x80, 0xBF, b.toNat % 16)
  else if b == 0xF0 then some (3, 0x90, 0xBF, 0)
  else if 0xF1 ≤ b && b ≤ 0xF3 then some (3, 0x80, 0xBF, b.toNat % 8)
  else if b == 0xF4 then some (3, 0x80, 0x8F, 4)
  else none

/-- Reads `more` continuations after the bits `acc`; `taken` counts those read so far. Gives the
character, or the replacement when a continuation is missing, and how many were read. -/
def continuations (more : Nat) (low high : UInt8) (acc taken : Nat) :
    List UInt8 → Char × Nat
  | bytes =>
    match more, bytes with
    | 0, _ => (Char.ofNat acc, taken)
    | _ + 1, [] => (replacement, taken)
    | more + 1, b :: rest =>
      if low ≤ b && b ≤ high then
        continuations more 0x80 0xBF (acc * 64 + payload b) (taken + 1) rest
      else (replacement, taken)

/-- The first character of `b :: rest`, and how many bytes of `rest` it takes. -/
def first (b : UInt8) (rest : List UInt8) : Char × Nat :=
  match lead b with
  | none => (replacement, 0)
  | some (more, low, high, bits) => continuations more low high bits 0 rest

/-- The characters of a sequence of bytes, with U+FFFD for each maximal malformed part. -/
def decode : List UInt8 → List Char
  | [] => []
  | b :: rest =>
    let found := first b rest
    found.1 :: decode (rest.drop found.2)
termination_by bytes => bytes.length
decreasing_by rw [List.length_drop, List.length_cons]; omega

def decodeLossy (bytes : ByteArray) : String :=
  String.ofList (decode bytes.data.toList)

end Settle.Text.Utf8
