import Settle.Names

/-!
# Names as pieces of one stream

A source of names reads one stream of characters from its start, and every call takes the next piece
of it (`Names.run_texts`). A character takes one or two words of the stream of words, so that where
the next one begins depends on the words before it (`Names.start`), but not on how the characters
were grouped into calls.

The generator of words makes four blocks at a time and hands them out word by word. What it hands
out are the words of the positions in order (`Buffer.read_eq`), so a position accounts for all of
its state.
-/

namespace Settle

namespace Names

variable {key : List UInt32}

/-! ## An index out of two words -/

/-- How many words the index takes whose first word is `x`. -/
def width (x : UInt32) : Nat :=
  if Nat.pow 2 32 - base < x.toNat * base % Nat.pow 2 32 then 2 else 1

/-- The index sampled from the word `x` and, where a second one is drawn, the word `y`. -/
def sampled (x y : UInt32) : Nat :=
  let product := x.toNat * base
  let high := product / Nat.pow 2 32
  let low := product % Nat.pow 2 32
  if Nat.pow 2 32 - base < low then high + (low + y.toNat * base / Nat.pow 2 32) / Nat.pow 2 32
  else high

theorem drawIndex_eq (n : Names) :
    n.drawIndex =
      (sampled (word n.key n.position) (word n.key (n.position + 1)),
        { n with position := n.position + width (word n.key n.position) }) := by
  unfold drawIndex sampled width next
  dsimp only
  split <;> rfl

/-- The two words are a fraction of 64 bits, and the index is `base` times the fraction, rounded
down: where the second word is not drawn, it would have made no difference. -/
theorem sampled_eq (x y : UInt32) :
    sampled x y = (x.toNat * Nat.pow 2 32 + y.toNat) * base / Nat.pow 2 64 := by
  have second := y.toNat_lt
  have words : Nat.pow 2 32 = 4294967296 := rfl
  have both : Nat.pow 2 64 = 18446744073709551616 := rfl
  unfold sampled
  dsimp only
  rw [words, both, base]
  split <;> omega

theorem sampled_lt (x y : UInt32) : sampled x y < base := by
  have first := x.toNat_lt
  have second := y.toNat_lt
  have words : Nat.pow 2 32 = 4294967296 := rfl
  have both : Nat.pow 2 64 = 18446744073709551616 := rfl
  rw [sampled_eq, words, both, base]
  omega

theorem length_alphabet : alphabet.length = base := by decide

theorem sampled_lt_length (x y : UInt32) : sampled x y < alphabet.length := by
  rw [length_alphabet]
  exact sampled_lt x y

/-! ## The stream of characters -/

def IsLowerOrDigit (c : Char) : Prop := ('a' ≤ c ∧ c ≤ 'z') ∨ ('0' ≤ c ∧ c ≤ '9')

instance (c : Char) : Decidable (IsLowerOrDigit c) := inferInstanceAs (Decidable (_ ∨ _))

theorem isLowerOrDigit_of_mem {c : Char} (h : c ∈ alphabet) : IsLowerOrDigit c := by
  have all : alphabet.all (fun c => IsLowerOrDigit c) = true := by decide
  exact of_decide_eq_true (List.all_eq_true.mp all c h)

/-- The position of the word at which the `k`-th character begins. -/
def start (key : List UInt32) : Nat → Nat
  | 0 => 0
  | k + 1 => start key k + width (word key (start key k))

def letter (key : List UInt32) (k : Nat) : Char :=
  let p := start key k
  alphabet.get ⟨sampled (word key p) (word key (p + 1)), sampled_lt_length _ _⟩

def piece (key : List UInt32) (k count : Nat) : String :=
  String.ofList ((List.range' k count).map (letter key))

theorem letter_isLowerOrDigit (key : List UInt32) (k : Nat) : IsLowerOrDigit (letter key k) :=
  isLowerOrDigit_of_mem (List.get_mem _ _)

theorem length_piece (key : List UInt32) (k count : Nat) : (piece key k count).length = count := by
  simp [piece]

theorem piece_isLowerOrDigit {k count : Nat} {c : Char} (h : c ∈ (piece key k count).toList) :
    IsLowerOrDigit c := by
  simp only [piece, String.toList_ofList, List.mem_map] at h
  obtain ⟨i, -, rfl⟩ := h
  exact letter_isLowerOrDigit key i

theorem piece_append (key : List UInt32) (k m n : Nat) :
    piece key k m ++ piece key (k + m) n = piece key k (m + n) := by
  rw [piece, piece, ← String.ofList_append, ← List.map_append, List.range'_append_1]
  rfl

/-- Pieces of one length, each from where the one before it has ended, are one piece. -/
theorem join_pieces (key : List UInt32) (length i count : Nat) :
    String.join ((List.range' i count).map fun j => piece key (j * length) length) =
      piece key (i * length) (count * length) := by
  induction count generalizing i with
  | zero => simp [piece]
  | succ count ih =>
    rw [List.range'_succ, List.map_cons, String.join_cons, ih, Nat.add_mul, Nat.one_mul,
      piece_append]
    congr 1
    rw [Nat.add_mul, Nat.one_mul, Nat.add_comm]

theorem drawChars_eq (key : List UInt32) (count k length : Nat) :
    drawChars count ⟨key, start key k, length⟩ =
      ((List.range' k count).map (letter key), ⟨key, start key (k + count), length⟩) := by
  induction count generalizing k with
  | zero => rfl
  | succ count ih =>
    have rest := ih (k + 1)
    rw [start] at rest
    simp only [drawChars, drawIndex_eq, rest, List.range'_succ, List.map_cons,
      Nat.add_right_comm k 1 count]
    rw [List.getD_eq_getElem?_getD, List.getElem?_eq_getElem (sampled_lt_length _ _)]
    rfl

theorem suffix_eq (key : List UInt32) (k length : Nat) :
    suffix ⟨key, start key k, length⟩ =
      (piece key k length, ⟨key, start key (k + length), length⟩) := by
  simp only [suffix, drawChars_eq]
  rfl

/-- A call on a source: for a suffix, or for a name that starts with a stem. -/
inductive Draw where
  | suffix
  | name (stem : String)
  deriving DecidableEq, Repr

/-- The text a call gives, of the suffix that it draws. -/
def Draw.text : Draw → String → String
  | .suffix, s => s
  | .name stem, s => stem ++ "-" ++ s

def Draw.run (n : Names) : Draw → String × Names
  | .suffix => n.suffix
  | .name stem => n.name stem

/-- Calls in order on one source. -/
def run : List Draw → Names → List String × Names
  | [], n => ([], n)
  | d :: draws, n =>
    let (text, n) := d.run n
    let (texts, n) := run draws n
    (text :: texts, n)

theorem Draw.run_eq (d : Draw) (n : Names) : d.run n = (d.text n.suffix.1, n.suffix.2) := by
  cases d <;> rfl

theorem run_eq (key : List UInt32) (length : Nat) (draws : List Draw) (i : Nat) :
    run draws ⟨key, start key (i * length), length⟩ =
      (List.zipWith Draw.text draws
          ((List.range' i draws.length).map fun j => piece key (j * length) length),
        ⟨key, start key ((i + draws.length) * length), length⟩) := by
  induction draws generalizing i with
  | nil => rfl
  | cons d draws ih =>
    have rest := ih (i + 1)
    rw [Nat.add_mul, Nat.one_mul] at rest
    simp only [run, d.run_eq, suffix_eq, rest, List.length_cons, List.range'_succ, List.map_cons,
      List.zipWith_cons_cons, Nat.add_assoc i 1, Nat.add_comm 1]

/-! ## The words, four blocks at a time -/

/-- A generator of words: the counter of the block to make next, and the words that are left of the
blocks made last. -/
structure Buffer where
  key : List UInt32
  counter : UInt64
  left : List UInt32

namespace Buffer

def ofKey (key : List UInt32) : Buffer := ⟨key, 0, []⟩

def blocks (key : List UInt32) (counter : UInt64) : Nat → List UInt32
  | 0 => []
  | n + 1 => (outputBlock key counter).toList ++ blocks key (counter + 1) n

def next (b : Buffer) : UInt32 × Buffer :=
  match b.left with
  | x :: left => (x, { b with left })
  | [] =>
    let words := blocks b.key b.counter 4
    (words.headD 0, ⟨b.key, b.counter + 4, words.tail⟩)

def read : Nat → Buffer → List UInt32
  | 0, _ => []
  | count + 1, b => b.next.1 :: read count b.next.2

theorem toList_outputBlock (key : List UInt32) (c : Nat) :
    (outputBlock key c.toUInt64).toList = (List.range' (16 * c) 16).map (word key) := by
  refine List.ext_getElem (by simp) fun i hi _ => ?_
  have hi : i < 16 := by simpa using hi
  have block : (16 * c + i) / 16 = c := by omega
  have place : (16 * c + i) % 16 = i := by omega
  simp only [Vector.getElem_toList, List.getElem_map, List.getElem_range', Nat.one_mul, word, block,
    place]
  rfl

theorem blocks_eq (key : List UInt32) (c n : Nat) :
    blocks key c.toUInt64 n = (List.range' (16 * c) (16 * n)).map (word key) := by
  induction n generalizing c with
  | zero => rfl
  | succ n ih =>
    have succ : c.toUInt64 + 1 = (c + 1).toUInt64 := (UInt64.ofNat_add c 1).symm
    rw [blocks, toList_outputBlock, succ, ih, ← List.map_append, Nat.mul_add, Nat.mul_one,
      List.range'_append_1, Nat.mul_add, Nat.mul_one, Nat.add_comm 16]

/-- The generator is about to hand out the word of a position: those left are the ones from there up
to the next block. -/
structure At (b : Buffer) (key : List UInt32) (position : Nat) : Prop where
  key_eq : b.key = key
  counter_eq : ∃ c : Nat, b.counter = c.toUInt64 ∧ position + b.left.length = 16 * c
  left_eq : b.left = (List.range' position b.left.length).map (word key)

theorem at_ofKey (key : List UInt32) : (ofKey key).At key 0 where
  key_eq := rfl
  counter_eq := ⟨0, rfl, rfl⟩
  left_eq := rfl

theorem At.next {b : Buffer} {p : Nat} (h : b.At key p) :
    b.next.1 = word key p ∧ b.next.2.At key (p + 1) := by
  obtain ⟨k, counter, left⟩ := b
  obtain ⟨rfl, ⟨c, rfl, count⟩, words⟩ := h
  cases left with
  | cons x left =>
    simp only [List.length_cons, List.range'_succ, List.map_cons, List.cons.injEq] at count words
    refine ⟨words.1, rfl, ⟨c, rfl, ?_⟩, words.2⟩
    simp only [Buffer.next]
    omega
  | nil =>
    -- No word is left, so the position is where the next block begins.
    have p_eq : p = 16 * c := by simpa using count
    have refill : blocks k c.toUInt64 4 =
        word k p :: (List.range' (p + 1) 63).map (word k) := by
      rw [blocks_eq, p_eq]
      rfl
    have succ : c.toUInt64 + 4 = (c + 4).toUInt64 := (UInt64.ofNat_add c 4).symm
    have made : Buffer.next ⟨k, c.toUInt64, []⟩ =
        (word k p, ⟨k, (c + 4).toUInt64, (List.range' (p + 1) 63).map (word k)⟩) := by
      simp only [Buffer.next, refill, succ, List.headD_cons, List.tail_cons]
    rw [made]
    refine ⟨rfl, rfl, ⟨c + 4, rfl, ?_⟩, ?_⟩
    · simp only [List.length_map, List.length_range']
      omega
    · simp only [List.length_map, List.length_range']

theorem At.read {b : Buffer} {p : Nat} (h : b.At key p) (count : Nat) :
    b.read count = (List.range' p count).map (word key) := by
  induction count generalizing b p with
  | zero => rfl
  | succ count ih => rw [Buffer.read, h.next.1, ih h.next.2, List.range'_succ, List.map_cons]

theorem read_eq (key : List UInt32) (count : Nat) :
    (ofKey key).read count = (List.range count).map (word key) := by
  rw [(at_ofKey key).read, List.range_eq_range']

end Buffer

/-! ## Runs from a seed -/

/-- The suffixes of a run of calls are the pieces of one stream, cut to the same length one after
the other, whatever the calls are: joined they are what one call for all of the characters draws.
The stream depends on the seed alone, its words are those of the generator that buffers four blocks,
and no index ever leaves the alphabet. -/
theorem run_texts (seed : UInt64) (length : Nat) (draws : List Draw) :
    let key := keyWords seed 8
    let pieces := (List.range draws.length).map fun i => piece key (i * length) length
    (run draws (ofSeed seed length)).1 = List.zipWith Draw.text draws pieces ∧
      (∀ s ∈ pieces, s.length = length ∧ ∀ c ∈ s.toList, IsLowerOrDigit c) ∧
      String.join pieces = piece key 0 (draws.length * length) ∧
      (ofSeed seed (draws.length * length)).suffix.1 = String.join pieces ∧
      (∀ count, (Buffer.ofKey key).read count = (List.range count).map (word key)) ∧
      (∀ n : Names,
        n.drawIndex =
          (sampled (word n.key n.position) (word n.key (n.position + 1)),
            { n with position := n.position + width (word n.key n.position) })) ∧
      ∀ x y, sampled x y < base ∧ sampled x y < alphabet.length := by
  intro key pieces
  have cut : pieces = (List.range' 0 draws.length).map fun i => piece key (i * length) length := by
    rw [← List.range_eq_range']
  have joined : String.join pieces = piece key 0 (draws.length * length) := by
    rw [cut, join_pieces, Nat.zero_mul]
  have texts : (run draws (ofSeed seed length)).1 = List.zipWith Draw.text draws pieces := by
    have calls := run_eq key length draws 0
    rw [Nat.zero_mul] at calls
    rw [cut]
    exact congrArg Prod.fst calls
  have whole : (ofSeed seed (draws.length * length)).suffix.1 = String.join pieces := by
    rw [joined]
    exact congrArg Prod.fst (suffix_eq key 0 (draws.length * length))
  refine ⟨texts, fun s hs => ?_, joined, whole, Buffer.read_eq key, drawIndex_eq,
    fun x y => ⟨sampled_lt x y, sampled_lt_length x y⟩⟩
  obtain ⟨i, -, rfl⟩ := List.mem_map.mp hs
  exact ⟨length_piece key _ length, fun c => piece_isLowerOrDigit⟩

/-- A suffix and a name, from a stream that starts with "esit". -/
example : (run [.suffix, .name "ns"] (ofSeed 42 2)).1 = ["es", "ns-it"] := by decide +kernel

end Names

end Settle
