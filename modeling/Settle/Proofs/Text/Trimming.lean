import Mathlib.Data.List.DropRight
import Settle.Text.Blank
import Settle.Text.Search

/-!
# Trimming

What is trimmed has no blank at either end (`tight_trim`). A needle without blanks at its own ends
is not hurt by trimming, whatever blanks it has within: it occurs in a text just when it occurs in
the trimmed text (`contains_trim`).
-/

namespace Settle.Text

variable {α : Type}

abbrev Tight (cs : List Char) : Prop :=
  cs.head?.any (!isBlank ·) = true ∧ cs.getLast?.any (!isBlank ·) = true

theorem toList_trim (text : String) :
    (trim text).toList = (text.toList.dropWhile isBlank).rdropWhile isBlank :=
  String.toList_ofList

theorem tight_of_cut {cs : List Char}
    (h : (cs.dropWhile isBlank).rdropWhile isBlank ≠ []) :
    Tight ((cs.dropWhile isBlank).rdropWhile isBlank) := by
  constructor
  · obtain ⟨c, rest, hc⟩ := List.exists_cons_of_ne_nil h
    have kept : (cs.dropWhile isBlank).head? = some c := by
      obtain ⟨cut, hcut⟩ := List.rdropWhile_prefix isBlank (cs.dropWhile isBlank)
      rw [← hcut, hc]
      rfl
    have solid := List.head?_dropWhile_not isBlank cs
    rw [kept] at solid
    simp [hc, solid]
  · rw [List.getLast?_eq_some_getLast h]
    simpa using List.rdropWhile_last_not isBlank _ h

theorem tight_trim {text : String} (h : trim text ≠ "") : Tight (trim text).toList := by
  rw [toList_trim]
  refine tight_of_cut fun empty => h ?_
  rw [← String.toList_eq_nil_iff, toList_trim, empty]

theorem trim_of_tight {text : String} (h : Tight text.toList) : trim text = text := by
  obtain ⟨head, last⟩ := h
  have front : text.toList.dropWhile isBlank = text.toList := by
    cases hl : text.toList with
    | nil => rfl
    | cons c cs =>
      rw [hl] at head
      exact List.dropWhile_cons_of_neg (by simpa using head)
  have back : text.toList.rdropWhile isBlank = text.toList := by
    rw [List.rdropWhile_eq_self_iff]
    intro hne
    rw [List.getLast?_eq_some_getLast hne] at last
    simpa using last
  rw [← String.toList_inj, toList_trim, front, back]

theorem infix_dropWhile {p : α → Bool} {part : List α} (hp : part.head?.any (!p ·) = true) :
    ∀ {l : List α}, part <:+: l → part <:+: l.dropWhile p
  | [], h => h
  | x :: xs, h => by
    by_cases hx : p x = true
    · rw [List.dropWhile_cons_of_pos hx]
      rcases List.infix_cons_iff.mp h with starts | within
      · obtain ⟨rest, hrest⟩ := starts
        cases part with
        | nil => simp at hp
        | cons y ys =>
          obtain ⟨rfl, -⟩ := List.cons.inj hrest
          simp [hx] at hp
      · exact infix_dropWhile hp within
    · rw [List.dropWhile_cons_of_neg hx]
      exact h

theorem infix_rdropWhile {p : α → Bool} {part l : List α}
    (hp : part.getLast?.any (!p ·) = true) (h : part <:+: l) : part <:+: l.rdropWhile p := by
  rw [← List.reverse_infix, List.rdropWhile, List.reverse_reverse]
  refine infix_dropWhile ?_ (List.reverse_infix.mpr h)
  rw [List.head?_reverse]
  exact hp

theorem contains_iff_isInfix {text needle : String} :
    contains text needle = true ↔ needle.toList <:+: text.toList := occurs_iff_isInfix

/-- Trimming a text neither removes a tight needle from it nor puts one into it. -/
theorem contains_trim {needle : String} (h : Tight needle.toList) (text : String) :
    contains (trim text) needle = contains text needle := by
  rw [Bool.eq_iff_iff, contains_iff_isInfix, contains_iff_isInfix, toList_trim]
  constructor
  · intro found
    have back := List.rdropWhile_prefix isBlank (text.toList.dropWhile isBlank)
    have front := List.dropWhile_suffix isBlank (l := text.toList)
    exact found.trans (back.isInfix.trans front.isInfix)
  · intro found
    exact infix_rdropWhile h.2 (infix_dropWhile h.1 found)

theorem contains_append {text needle : String} (before after : String)
    (h : contains text needle = true) : contains (before ++ text ++ after) needle = true := by
  rw [contains_iff_isInfix] at h ⊢
  rw [String.toList_append, String.toList_append]
  exact h.trans ⟨before.toList, after.toList, rfl⟩

end Settle.Text
