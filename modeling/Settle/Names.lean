/-!
# Fresh names

Names end with a suffix of lower-case letters and digits drawn from a seeded stream of random
words. The key of the stream is spread from the seed by a permuted congruential generator; the words
are the output of the ChaCha cipher with twelve rounds and a 64-bit block counter. A position in the
stream is all the state there is, so what is drawn depends on the seed and on how many words were
drawn before, not on how the draws were grouped.
-/

namespace Settle

namespace Names

/-- A generator of key words: the next state for a state. -/
def keyState (state : UInt64) : UInt64 := state * 6364136223846793005 + 11634580027462260723

def turnRight (x n : UInt32) : UInt32 := (x >>> n) ||| (x <<< ((32 - n) % 32))

/-- The word `x` turned left by `n` bits, for `n` from 1 to 31. -/
def turnLeft (x n : UInt32) : UInt32 := (x <<< n) ||| (x >>> (32 - n))

def keyWord (state : UInt64) : UInt32 :=
  turnRight (((state >>> 18) ^^^ state) >>> 27).toUInt32 (state >>> 59).toUInt32

def keyWords (state : UInt64) : Nat → List UInt32
  | 0 => []
  | n + 1 => keyWord (keyState state) :: keyWords (keyState state) n

abbrev Block := Vector UInt32 16

def quarter (s : Block) (a b c d : Fin 16) : Block :=
  let s := s.set a (s[a] + s[b])
  let s := s.set d (turnLeft (s[d] ^^^ s[a]) 16)
  let s := s.set c (s[c] + s[d])
  let s := s.set b (turnLeft (s[b] ^^^ s[c]) 12)
  let s := s.set a (s[a] + s[b])
  let s := s.set d (turnLeft (s[d] ^^^ s[a]) 8)
  let s := s.set c (s[c] + s[d])
  s.set b (turnLeft (s[b] ^^^ s[c]) 7)

def doubleRound (s : Block) : Block :=
  let s := quarter s 0 4 8 12
  let s := quarter s 1 5 9 13
  let s := quarter s 2 6 10 14
  let s := quarter s 3 7 11 15
  let s := quarter s 0 5 10 15
  let s := quarter s 1 6 11 12
  let s := quarter s 2 7 8 13
  quarter s 3 4 9 14

/-- The cipher state before the rounds: the constants, the key, the block counter, no nonce. -/
def startBlock (key : List UInt32) (counter : UInt64) : Block :=
  let k (i : Nat) : UInt32 := key.getD i 0
  #v[0x61707865, 0x3320646e, 0x79622d32, 0x6b206574, k 0, k 1, k 2, k 3, k 4, k 5, k 6, k 7,
    counter.toUInt32, (counter >>> 32).toUInt32, 0, 0]

/-- The output block of a counter: twelve rounds added to the state before them. -/
def outputBlock (key : List UInt32) (counter : UInt64) : Block :=
  let s := startBlock key counter
  let t := (List.range 6).foldl (fun t _ => doubleRound t) s
  Vector.zipWith (· + ·) s t

def word (key : List UInt32) (position : Nat) : UInt32 :=
  (outputBlock key (position / 16).toUInt64).get ⟨position % 16, Nat.mod_lt _ (by decide)⟩

end Names

/-- A source of names: the key of its stream, the position in it, and how long suffixes are. -/
structure Names where
  key : List UInt32
  position : Nat
  length : Nat
  deriving DecidableEq, Repr

namespace Names

def defaultLength : Nat := 8

def alphabet : List Char := "abcdefghijklmnopqrstuvwxyz0123456789".toList

def ofSeed (seed : UInt64) (length : Nat) : Names := ⟨keyWords seed 8, 0, length⟩

def next (n : Names) : UInt32 × Names :=
  (word n.key n.position, { n with position := n.position + 1 })

def base : Nat := 36

/-- Draws an index below `base`: the high half of a random word times `base`. When the low half is
so large that the next word could carry into the high half, that word is drawn and its carry added.
-/
def drawIndex (n : Names) : Nat × Names :=
  let (x, n) := n.next
  let product := x.toNat * base
  let high := product / Nat.pow 2 32
  let low := product % Nat.pow 2 32
  if Nat.pow 2 32 - base < low then
    let (y, n) := n.next
    let carry := (low + y.toNat * base / Nat.pow 2 32) / Nat.pow 2 32
    (high + carry, n)
  else (high, n)

def drawChars : Nat → Names → List Char × Names
  | 0, n => ([], n)
  | count + 1, n =>
    let (i, n) := n.drawIndex
    let (cs, n) := drawChars count n
    (alphabet.getD i 'a' :: cs, n)

def suffix (n : Names) : String × Names :=
  let (cs, n) := drawChars n.length n
  (String.ofList cs, n)

def name (n : Names) (stem : String) : String × Names :=
  let (s, n) := n.suffix
  (stem ++ "-" ++ s, n)

end Names

end Settle
