import Mathlib.Tactic.SplitIfs
import Settle.Proofs.Text.Decoding

/-!
# The order of texts and of their bytes

Texts are ordered by their code points, one after the other, and UTF-8 keeps this order: of two
texts the smaller one has the smaller bytes (`encode_lt_iff`).
-/

namespace Settle.Text.Utf8

theorem lex_cons {m n : Nat} (hn : n < 256) {xs ys : List UInt8}
    (h : m < n ∨ m = n ∧ List.Lex (· < ·) xs ys) :
    List.Lex (· < ·) (UInt8.ofNat m :: xs) (UInt8.ofNat n :: ys) := by
  rcases h with less | ⟨rfl, rest⟩
  · refine .rel (UInt8.lt_iff_toNat_lt.mpr ?_)
    rwa [UInt8.toNat_ofNat_of_lt' hn, UInt8.toNat_ofNat_of_lt' (Nat.lt_trans less hn)]
  · exact .cons rest

/-- A byte that shows the number `m` decides, unless the other text shows the same number there. -/
theorem lex_digit {m n x y : Nat} (hy : y < 256) (less : m < n → x < y) (same : m = n → x = y)
    (hmn : m ≤ n) {xs ys : List UInt8} (rest : m = n → List.Lex (· < ·) xs ys) :
    List.Lex (· < ·) (UInt8.ofNat x :: xs) (UInt8.ofNat y :: ys) := by
  rcases Nat.lt_or_eq_of_le hmn with h | h
  · exact lex_cons hy (.inl (less h))
  · exact lex_cons hy (.inr ⟨same h, rest h⟩)

theorem lex_encodeChar {c d : Char} (h : c < d) (xs ys : List UInt8) :
    List.Lex (· < ·) (String.utf8EncodeChar c ++ xs) (String.utf8EncodeChar d ++ ys) := by
  have less : c.val.toNat < d.val.toNat := h
  have bound : d.val.toNat < 0x110000 := by
    rcases d.valid with low | high <;> omega
  unfold String.utf8EncodeChar
  generalize c.val.toNat = m at less ⊢
  generalize d.val.toNat = n at less bound ⊢
  dsimp only
  -- A character with more bytes begins with a larger one. Of two with equally many bytes the
  -- digits to base 64 are compared, the first one that differs deciding.
  split_ifs
  · exact lex_cons (by omega) (.inl less)
  · exact lex_cons (by omega) (.inl (by omega))
  · exact lex_cons (by omega) (.inl (by omega))
  · exact lex_cons (by omega) (.inl (by omega))
  · omega
  · exact lex_digit (m := m / 64) (n := n / 64) (by omega) (by omega) (by omega) (by omega)
      fun _ => lex_cons (by omega) (.inl (by omega))
  · exact lex_cons (by omega) (.inl (by omega))
  · exact lex_cons (by omega) (.inl (by omega))
  · omega
  · omega
  · exact lex_digit (m := m / 4096) (n := n / 4096) (by omega) (by omega) (by omega) (by omega)
      fun _ => lex_digit (m := m / 64) (n := n / 64) (by omega) (by omega) (by omega) (by omega)
        fun _ => lex_cons (by omega) (.inl (by omega))
  · exact lex_cons (by omega) (.inl (by omega))
  · omega
  · omega
  · omega
  · exact lex_digit (m := m / 262144) (n := n / 262144) (by omega) (by omega) (by omega) (by omega)
      fun _ => lex_digit (m := m / 4096) (n := n / 4096) (by omega) (by omega) (by omega) (by omega)
        fun _ => lex_digit (m := m / 64) (n := n / 64) (by omega) (by omega) (by omega) (by omega)
          fun _ => lex_cons (by omega) (.inl (by omega))

theorem lex_append_left {α : Type} {r : α → α → Prop} (zs : List α) {xs ys : List α}
    (h : List.Lex r xs ys) : List.Lex r (zs ++ xs) (zs ++ ys) := by
  induction zs with
  | nil => exact h
  | cons z zs ih => exact .cons ih

theorem lex_flatMap {cs ds : List Char} (h : List.Lex (· < ·) cs ds) :
    List.Lex (· < ·) (cs.flatMap String.utf8EncodeChar) (ds.flatMap String.utf8EncodeChar) := by
  induction h with
  | @nil d ds =>
    have some : String.utf8EncodeChar d ≠ [] := by
      rw [← List.length_pos_iff, String.length_utf8EncodeChar]
      exact d.utf8Size_pos
    obtain ⟨b, bs, encoded⟩ := List.exists_cons_of_ne_nil some
    rw [List.flatMap_cons, encoded]
    exact .nil
  | cons _ ih => exact lex_append_left _ ih
  | rel less => exact lex_encodeChar less _ _

theorem encode_lt {s t : String} (h : s < t) : encode s < encode t := by
  rw [encode_eq_flatMap, encode_eq_flatMap]
  exact lex_flatMap (String.lt_iff.mp h)

/-- Texts are ordered as their bytes are. -/
theorem encode_lt_iff {s t : String} : encode s < encode t ↔ s < t := by
  refine ⟨fun h => ?_, encode_lt⟩
  by_contra other
  rcases Decidable.em (t < s) with h' | other'
  · exact List.lt_asymm h (encode_lt h')
  · rw [String.le_antisymm (String.not_lt.mp other') (String.not_lt.mp other)] at h
    exact List.lt_irrefl _ h

end Settle.Text.Utf8
