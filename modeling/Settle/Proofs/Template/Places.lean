import Mathlib.Data.Nat.Find
import Settle.Template.Engine

/-!
# Places of placeholders

A place of a text is a position where a placeholder is written. Places do not overlap
(`PlaceAt.end_le`). Reading a text from the left, a placeholder where one is written and a character
everywhere else, comes across all of its places (`Reads`), and this is how `pieces` reads
(`reads_pieces`). What substitution does is then told by the places alone: which key it misses, and
what it puts at each position of the text (`substitute_places`).
-/

namespace Settle.Template

/-! ## Keys and their spelling -/

def isMark (c : Char) : Bool := c == '$' || c == '\x7b' || c == '\x7d'

theorem isMark_of_isKeyChar {c : Char} (h : isKeyChar c = true) : isMark c = false := by
  rw [isMark, Bool.or_eq_false_iff, Bool.or_eq_false_iff]
  refine ⟨⟨?_, ?_⟩, ?_⟩ <;> rw [beq_eq_false_iff_ne] <;> rintro rfl <;> exact absurd h (by decide)

theorem isKeyChar_of_isKey {key : List Char} (h : isKey key = true) :
    ∀ c ∈ key, isKeyChar c = true := by
  cases key with
  | nil => nofun
  | cons first rest =>
    simp only [isKey, Bool.and_eq_true, List.all_eq_true] at h
    refine List.forall_mem_cons.mpr ⟨?_, h.2⟩
    have start := h.1
    simp only [isKeyStart, isKeyChar, Char.isAlphanum, Bool.or_eq_true] at start ⊢
    exact start.imp_left .inl

theorem isMark_of_mem_key {key : List Char} (h : isKey key = true) {c : Char} (hc : c ∈ key) :
    isMark c = false := isMark_of_isKeyChar (isKeyChar_of_isKey h c hc)

def spelled (key : String) : List Char := '$' :: '\x7b' :: (key.toList ++ ['\x7d'])

theorem spelled_append (key : String) (rest : List Char) :
    spelled key ++ rest = '$' :: '\x7b' :: (key.toList ++ '\x7d' :: rest) := by
  simp [spelled]

theorem dollar_not_mem_braced {key : List Char} (h : isKey key = true) :
    '$' ∉ '\x7b' :: (key ++ ['\x7d']) := by
  intro hm
  rcases List.mem_cons.mp hm with hm | hm
  · cases hm
  · rcases List.mem_append.mp hm with hm | hm
    · exact absurd (isMark_of_mem_key h hm) (by decide)
    · exact absurd (List.mem_singleton.mp hm) (by decide)

theorem bracedKey?_eq_some_iff {cs rest : List Char} {key : String} :
    bracedKey? cs = some (key, rest) ↔
      isKey key.toList = true ∧ cs = '\x7b' :: (key.toList ++ '\x7d' :: rest) := by
  constructor
  · intro h
    unfold bracedKey? at h
    split at h
    · rename_i cs
      dsimp only at h
      split at h
      · rename_i tail ends
        split at h
        · rename_i isKey
          cases h
          rw [String.toList_ofList, ← ends, List.takeWhile_append_dropWhile]
          exact ⟨isKey, rfl⟩
        · cases h
      · cases h
    · cases h
  · rintro ⟨isKey, rfl⟩
    have chars := isKeyChar_of_isKey isKey
    have taken : (key.toList ++ '\x7d' :: rest).takeWhile isKeyChar = key.toList := by
      rw [List.takeWhile_append_of_pos chars, List.takeWhile_cons_of_neg (by decide),
        List.append_nil]
    have left : (key.toList ++ '\x7d' :: rest).dropWhile isKeyChar = '\x7d' :: rest := by
      rw [List.dropWhile_append_of_pos chars, List.dropWhile_cons_of_neg (by decide)]
    simp only [bracedKey?, taken, left, isKey, if_true, String.ofList_toList]

/-- A placeholder can be read back, and so can what follows it. -/
theorem spelled_append_inj {k l : String} {xs ys : List Char} (hk : isKey k.toList = true)
    (hl : isKey l.toList = true) (h : spelled k ++ xs = spelled l ++ ys) : k = l ∧ xs = ys := by
  rw [spelled_append, spelled_append] at h
  have first : bracedKey? ('\x7b' :: (k.toList ++ '\x7d' :: xs)) = some (k, xs) :=
    bracedKey?_eq_some_iff.mpr ⟨hk, rfl⟩
  have second : bracedKey? ('\x7b' :: (l.toList ++ '\x7d' :: ys)) = some (l, ys) :=
    bracedKey?_eq_some_iff.mpr ⟨hl, rfl⟩
  rw [(List.cons.inj h).2, second] at first
  cases first
  exact ⟨rfl, rfl⟩

/-! ## Places -/

/-- A placeholder with this key is written at this position of a text. -/
def PlaceAt (text : List Char) (i : Nat) (key : String) : Prop :=
  isKey key.toList = true ∧ spelled key <+: text.drop i

namespace PlaceAt

variable {text : List Char} {i j : Nat} {k l : String}

theorem char_eq (h : PlaceAt text i k) {d : Nat} (hd : d < (spelled k).length) :
    text[i + d]? = some (spelled k)[d] := by
  obtain ⟨rest, hr⟩ := h.2
  rw [← List.getElem?_drop, ← hr, List.getElem?_append_left hd, List.getElem?_eq_getElem hd]

theorem dollar (h : PlaceAt text i k) : text[i]? = some '$' := h.char_eq (Nat.succ_pos _)

theorem key_unique (h : PlaceAt text i k) (h' : PlaceAt text i l) : k = l := by
  obtain ⟨xs, hx⟩ := h.2
  obtain ⟨ys, hy⟩ := h'.2
  exact (spelled_append_inj h.1 h'.1 (hx.trans hy.symm)).1

/-- Places do not overlap. -/
theorem end_le (h : PlaceAt text i k) (h' : PlaceAt text j l) (hij : i < j) :
    i + (spelled k).length ≤ j := by
  refine Nat.le_of_not_lt fun hj => ?_
  obtain ⟨d, rfl⟩ : ∃ d, j = i + (d + 1) := ⟨j - i - 1, by omega⟩
  have hd : d + 1 < (spelled k).length := by omega
  have inside := h.char_eq hd
  rw [h'.dollar] at inside
  refine dollar_not_mem_braced h.1 ?_
  rw [Option.some.inj inside]
  exact List.getElem_mem (l := '\x7b' :: (k.toList ++ ['\x7d'])) (Nat.lt_of_succ_lt_succ hd)

end PlaceAt

theorem placeAt_cons_succ {c : Char} {cs : List Char} {i : Nat} {k : String} :
    PlaceAt (c :: cs) (i + 1) k ↔ PlaceAt cs i k := Iff.rfl

theorem placeAt_append_right {xs ys : List Char} {i : Nat} {k : String} :
    PlaceAt (xs ++ ys) (xs.length + i) k ↔ PlaceAt ys i k := by
  unfold PlaceAt
  rw [← List.drop_drop, List.drop_left]

theorem placeAt_spelled {key : String} (h : isKey key.toList = true) (rest : List Char) :
    PlaceAt (spelled key ++ rest) 0 key := ⟨h, rest, rfl⟩

theorem placeAt_spelled_append {key : String} (h : isKey key.toList = true) {rest : List Char}
    {i : Nat} {k : String} :
    PlaceAt (spelled key ++ rest) i k ↔
      i = 0 ∧ k = key ∨ ∃ j, i = (spelled key).length + j ∧ PlaceAt rest j k := by
  have first := placeAt_spelled h rest
  constructor
  · intro place
    rcases Nat.eq_zero_or_pos i with rfl | hi
    · exact .inl ⟨rfl, place.key_unique first⟩
    · obtain ⟨j, rfl⟩ := Nat.exists_eq_add_of_le (first.end_le place hi)
      rw [Nat.zero_add] at place ⊢
      exact .inr ⟨j, rfl, placeAt_append_right.mp place⟩
  · rintro (⟨rfl, rfl⟩ | ⟨j, rfl, place⟩)
    · exact first
    · exact placeAt_append_right.mpr place

/-! ## Reading a text -/

/-- The text reads as these pieces: a placeholder where one is written, and otherwise a
character. -/
inductive Reads : List Char → List Piece → Prop
  | nil : Reads [] []
  | placeholder {key : String} {rest : List Char} {ps : List Piece}
    (h : isKey key.toList = true) (reads : Reads rest ps) :
    Reads (spelled key ++ rest) (.placeholder key :: ps)
  | char {c : Char} {cs : List Char} {ps : List Piece} (none : ∀ k, ¬ PlaceAt (c :: cs) 0 k)
    (reads : Reads cs ps) : Reads (c :: cs) (.char c :: ps)

/-- A placeholder is written where `bracedKey?` finds one after a dollar sign. -/
theorem placeAt_zero_iff {c : Char} {cs : List Char} {key : String} :
    PlaceAt (c :: cs) 0 key ↔ c = '$' ∧ ∃ rest, bracedKey? cs = some (key, rest) := by
  constructor
  · rintro ⟨hk, rest, h⟩
    rw [spelled_append, List.drop_zero] at h
    obtain ⟨rfl, rfl⟩ := List.cons.inj h
    exact ⟨rfl, rest, bracedKey?_eq_some_iff.mpr ⟨hk, rfl⟩⟩
  · rintro ⟨rfl, rest, found⟩
    obtain ⟨hk, rfl⟩ := bracedKey?_eq_some_iff.mp found
    exact ⟨hk, rest, spelled_append key rest⟩

theorem reads_pieces (cs : List Char) : Reads cs (pieces cs) := by
  fun_induction pieces cs with
  | case1 => exact .nil
  | case2 cs key rest found shorter ih =>
    obtain ⟨hk, rfl⟩ := bracedKey?_eq_some_iff.mp found
    rw [← spelled_append]
    exact .placeholder hk ih
  | case3 cs missing ih =>
    refine .char (fun k place => ?_) ih
    obtain ⟨_, rest, found⟩ := placeAt_zero_iff.mp place
    rw [missing] at found
    cases found
  | case4 c cs other ih => exact .char (fun k place => other (placeAt_zero_iff.mp place).1) ih

/-! ## What substitution does -/

variable {params : List (String × String)} {text : List Char} {ps : List Piece}

/-- The first place of the text whose key has no value has this key. -/
def FirstMissing (params : List (String × String)) (text : List Char) (key : String) : Prop :=
  ∃ i, PlaceAt text i key ∧ params.lookup key = none ∧
    ∀ j k, j < i → PlaceAt text j k → params.lookup k ≠ none

theorem not_placeAt_nil {i : Nat} {k : String} : ¬ PlaceAt [] i k := by
  intro place
  have dollar := place.dollar
  cases dollar

theorem firstMissing_spelled_append {k : String} (hk : isKey k.toList = true) {rest : List Char}
    {key : String} :
    FirstMissing params (spelled k ++ rest) key ↔
      params.lookup k = none ∧ key = k ∨
        params.lookup k ≠ none ∧ FirstMissing params rest key := by
  constructor
  · rintro ⟨i, place, missing, before⟩
    rcases (placeAt_spelled_append hk).mp place with ⟨rfl, rfl⟩ | ⟨j, rfl, later⟩
    · exact .inl ⟨missing, rfl⟩
    · refine .inr ⟨before 0 k (Nat.lt_add_right j (Nat.succ_pos _)) (placeAt_spelled hk rest), j,
        later, missing, fun j' k' hj place' => ?_⟩
      exact before _ k' (Nat.add_lt_add_left hj _) (placeAt_append_right.mpr place')
  · rintro (⟨missing, rfl⟩ | ⟨present, j, place, missing, before⟩)
    · exact ⟨0, placeAt_spelled hk rest, missing, nofun⟩
    · refine ⟨_, placeAt_append_right.mpr place, missing, fun i k' hi place' => ?_⟩
      rcases (placeAt_spelled_append hk).mp place' with ⟨_, rfl⟩ | ⟨j', rfl, earlier⟩
      · exact present
      · exact before j' k' (Nat.lt_of_add_lt_add_left hi) earlier

theorem firstMissing_cons {c : Char} {cs : List Char} (none : ∀ k, ¬ PlaceAt (c :: cs) 0 k)
    {key : String} : FirstMissing params (c :: cs) key ↔ FirstMissing params cs key := by
  constructor
  · rintro ⟨_ | i, place, missing, before⟩
    · exact absurd place (none key)
    · exact ⟨i, place, missing, fun j k hj => before (j + 1) k (Nat.succ_lt_succ hj)⟩
  · rintro ⟨i, place, missing, before⟩
    refine ⟨i + 1, place, missing, ?_⟩
    rintro (_ | j) k hj place'
    · exact absurd place' (none k)
    · exact before j k (Nat.lt_of_succ_lt_succ hj) place'

theorem Reads.findSome?_missing (h : Reads text ps) (key : String) :
    ps.findSome? (Piece.missing? params) = some key ↔ FirstMissing params text key := by
  induction h with
  | nil => exact ⟨nofun, fun ⟨_, place, _⟩ => absurd place not_placeAt_nil⟩
  | @placeholder k rest ps hk _ ih =>
    rw [firstMissing_spelled_append hk, ← ih, List.findSome?_cons, Piece.missing?]
    cases params.lookup k with
    | none => simp [eq_comm]
    | some v => simp
  | char none _ ih =>
    rw [firstMissing_cons none, ← ih]
    rfl

theorem exists_firstMissing {i : Nat} {k : String} (place : PlaceAt text i k)
    (missing : params.lookup k = none) : ∃ key, FirstMissing params text key := by
  classical
  have h : ∃ i k, PlaceAt text i k ∧ params.lookup k = none := ⟨i, k, place, missing⟩
  obtain ⟨key, first, none⟩ := Nat.find_spec h
  exact ⟨key, Nat.find h, first, none, fun j k hj place' missing' =>
    Nat.find_min h hj ⟨k, place', missing'⟩⟩

/-- What the positions of a text come to, one after the other: at a place the value, within the rest
of the placeholder nothing, and anywhere else the character. -/
structure Fills (params : List (String × String)) (text : List Char) (parts : List (List Char)) :
    Prop where
  length_eq : parts.length = text.length
  place : ∀ i k v, PlaceAt text i k → params.lookup k = some v → parts[i]? = some v.toList
  inside : ∀ i k j, PlaceAt text i k → i < j → j < i + (spelled k).length → parts[j]? = some []
  outside : ∀ j c, text[j]? = some c →
    (∀ i k, PlaceAt text i k → j < i ∨ i + (spelled k).length ≤ j) → parts[j]? = some [c]

theorem Fills.cons {c : Char} {cs : List Char} {parts : List (List Char)}
    (none : ∀ k, ¬ PlaceAt (c :: cs) 0 k) (h : Fills params cs parts) :
    Fills params (c :: cs) ([c] :: parts) where
  length_eq := congrArg (· + 1) h.length_eq
  place := by
    rintro (_ | i) k v place hv
    · exact absurd place (none k)
    · exact h.place i k v place hv
  inside := by
    rintro (_ | i) k (_ | j) place hij hj
    · exact absurd place (none k)
    · exact absurd place (none k)
    · exact absurd hij (Nat.not_lt_zero _)
    · exact h.inside i k j place (Nat.lt_of_succ_lt_succ hij) (by omega)
  outside := by
    rintro (_ | j) d hd apart
    · cases hd
      rfl
    · refine h.outside j d hd fun i k place => ?_
      have := apart (i + 1) k place
      omega

/-- A placeholder comes to its value and, but for its first position, to nothing. -/
def valueParts (k : String) (value : List Char) : List (List Char) :=
  value :: List.replicate (k.toList.length + 2) []

theorem Fills.spelled_append {k : String} (hk : isKey k.toList = true) {rest : List Char}
    {parts : List (List Char)} (h : Fills params rest parts) {value : List Char}
    (hv : ∀ v, params.lookup k = some v → v.toList = value) :
    Fills params (spelled k ++ rest) (valueParts k value ++ parts) := by
  have hlen : (valueParts k value).length = (spelled k).length := by
    simp [valueParts, spelled]
  have shift (j : Nat) : (valueParts k value ++ parts)[(spelled k).length + j]? = parts[j]? := by
    rw [← hlen, List.getElem?_append_right (Nat.le_add_right _ _), Nat.add_sub_cancel_left]
  constructor
  · rw [List.length_append, List.length_append, hlen, h.length_eq]
  · intro i k' v place hv'
    rcases (placeAt_spelled_append hk).mp place with ⟨rfl, rfl⟩ | ⟨i, rfl, later⟩
    · rw [hv v hv']
      rfl
    · rw [shift]
      exact h.place i k' v later hv'
  · intro i k' j place hij hj
    rcases (placeAt_spelled_append hk).mp place with ⟨rfl, rfl⟩ | ⟨i, rfl, later⟩
    · rw [Nat.zero_add, ← hlen] at hj
      obtain ⟨j, rfl⟩ := Nat.exists_eq_succ_of_ne_zero (Nat.ne_of_gt hij)
      rw [List.getElem?_append_left hj]
      rw [valueParts, List.length_cons, List.length_replicate] at hj
      exact List.getElem?_replicate_of_lt (Nat.lt_of_succ_lt_succ hj)
    · obtain ⟨j, rfl⟩ := Nat.exists_eq_add_of_le (Nat.le_of_lt (Nat.lt_of_add_right_lt hij))
      rw [shift]
      exact h.inside i k' j later (Nat.lt_of_add_lt_add_left hij) (by omega)
  · intro j c hc apart
    have after : (spelled k).length ≤ j := by
      simpa using apart 0 k (placeAt_spelled hk rest)
    obtain ⟨j, rfl⟩ := Nat.exists_eq_add_of_le after
    rw [shift]
    rw [List.getElem?_append_right (Nat.le_add_right _ _), Nat.add_sub_cancel_left] at hc
    refine h.outside j c hc fun i k' place => ?_
    have := apart _ k' (placeAt_append_right.mpr place)
    omega

theorem Reads.exists_fills (h : Reads text ps) (params : List (String × String)) :
    ∃ parts, Fills params text parts ∧ ps.flatMap (Piece.fill params) = parts.flatten := by
  induction h with
  | nil =>
    exact ⟨[], ⟨rfl, fun _ _ _ place => absurd place not_placeAt_nil,
      fun _ _ _ place => absurd place not_placeAt_nil, nofun⟩, rfl⟩
  | @placeholder k rest ps hk _ ih =>
    obtain ⟨parts, fills, same⟩ := ih
    have value (v : String) (hv : params.lookup k = some v) :
        v.toList = ((params.lookup k).getD "").toList := by
      rw [hv]
      rfl
    refine ⟨_, fills.spelled_append hk value, ?_⟩
    simp [valueParts, Piece.fill, same]
  | @char c cs ps none _ ih =>
    obtain ⟨parts, fills, same⟩ := ih
    refine ⟨_, fills.cons none, ?_⟩
    rw [List.flatMap_cons, same]
    rfl

/-- Only the values of the keys at the places of a text matter. -/
theorem Reads.alike (h : Reads text ps) {params' : List (String × String)}
    (agree : ∀ i k, PlaceAt text i k → params'.lookup k = params.lookup k) :
    ps.findSome? (Piece.missing? params') = ps.findSome? (Piece.missing? params) ∧
      ps.flatMap (Piece.fill params') = ps.flatMap (Piece.fill params) := by
  induction h with
  | nil => exact ⟨rfl, rfl⟩
  | @placeholder k rest ps hk _ ih =>
    obtain ⟨missing, fill⟩ := ih fun i k' place => agree _ k' (placeAt_append_right.mpr place)
    have same := agree 0 k (placeAt_spelled hk rest)
    simp only [List.findSome?_cons, List.flatMap_cons, Piece.missing?, Piece.fill, missing, fill,
      same, and_self]
  | @char c cs ps none _ ih =>
    obtain ⟨missing, fill⟩ := ih fun i k place => agree (i + 1) k place
    simp only [List.findSome?_cons, List.flatMap_cons, Piece.missing?, Piece.fill, missing, fill,
      and_self]

theorem substitute_eq_error_iff {text key : String} :
    substitute params text = .error key ↔ FirstMissing params text.toList key := by
  rw [← (reads_pieces text.toList).findSome?_missing]
  unfold substitute
  dsimp only
  cases (pieces text.toList).findSome? (Piece.missing? params) <;> simp

theorem toList_of_substitute {text doc : String} (h : substitute params text = .ok doc) :
    doc.toList = (pieces text.toList).flatMap (Piece.fill params) := by
  unfold substitute at h
  dsimp only at h
  split at h
  · cases h
  · cases h
    exact String.toList_ofList

theorem substitute_eq_ok_iff {text doc : String} :
    substitute params text = .ok doc ↔
      (∀ i k, PlaceAt text.toList i k → params.lookup k ≠ none) ∧
        doc.toList = (pieces text.toList).flatMap (Piece.fill params) := by
  constructor
  · intro done
    refine ⟨fun i k place missing => ?_, toList_of_substitute done⟩
    obtain ⟨key, first⟩ := exists_firstMissing place missing
    rw [substitute_eq_error_iff.mpr first] at done
    cases done
  · rintro ⟨bound, written⟩
    cases done : substitute params text with
    | error key =>
      obtain ⟨i, place, missing, -⟩ := substitute_eq_error_iff.mp done
      exact absurd missing (bound i key place)
    | ok doc' => rw [String.toList_inj.mp ((toList_of_substitute done).trans written.symm)]

/-- What substitution makes of a text is told by the places of the text, where a placeholder is
written. It fails when the key of one of them has no value, and then the first such key is the
fault. Otherwise each placeholder is replaced by its value, as it is, and every other character
stays. Values of other keys play no part. -/
theorem substitute_places (params : List (String × String)) (text : String) :
    (∀ i j k l, PlaceAt text.toList i k → PlaceAt text.toList j l →
      (i = j → k = l) ∧ (i < j → i + (spelled k).length ≤ j)) ∧
    ((∃ key, substitute params text = .error key) ↔
      ∃ i k, PlaceAt text.toList i k ∧ params.lookup k = none) ∧
    (∀ key, substitute params text = .error key ↔ FirstMissing params text.toList key) ∧
    (∀ doc, substitute params text = .ok doc →
      ∃ parts, Fills params text.toList parts ∧ doc = String.ofList parts.flatten) ∧
    (∀ params', (∀ i k, PlaceAt text.toList i k → params'.lookup k = params.lookup k) →
      substitute params' text = substitute params text) ∧
    ∀ (t : Template) (files : FileSystem), files.readText t.source = .ok text →
      t.expandText files =
        (substitute t.params text).mapError (.unresolvedPlaceholder t.source) := by
  have reads := reads_pieces text.toList
  refine ⟨fun i j k l hi hj => ⟨?_, hi.end_le hj⟩, ⟨?_, ?_⟩, fun _ => substitute_eq_error_iff,
    fun doc done => ?_, fun params' agree => ?_, fun t files read => ?_⟩
  · rintro rfl
    exact hi.key_unique hj
  · rintro ⟨key, failed⟩
    obtain ⟨i, place, missing, -⟩ := substitute_eq_error_iff.mp failed
    exact ⟨i, key, place, missing⟩
  · rintro ⟨i, k, place, missing⟩
    obtain ⟨key, first⟩ := exists_firstMissing place missing
    exact ⟨key, substitute_eq_error_iff.mpr first⟩
  · obtain ⟨parts, fills, same⟩ := reads.exists_fills params
    obtain ⟨-, written⟩ := substitute_eq_ok_iff.mp done
    refine ⟨parts, fills, ?_⟩
    rw [← same, ← written, String.ofList_toList]
  · obtain ⟨missing, fill⟩ := reads.alike agree
    unfold substitute
    simp only [missing, fill]
  · unfold expandText
    rw [read]

example : substitute [("A", "$\x7bB\x7d"), ("B", "$1")]
    "$$\x7bA\x7d$\x7b$\x7bB\x7d\x7d$\x7b1\x7d$\x7bA" =
      .ok "$$\x7bB\x7d$\x7b$1\x7d$\x7b1\x7d$\x7bA" := by decide +kernel

end Settle.Template
