import Settle.Proofs.Text.Spacing
import Settle.Proofs.Text.Trimming

/-!
# Blanks around a text

Every text is what trimming leaves of it, with blanks around (`exists_padding`). A text without
blanks at its ends is found again by trimming, whatever blanks are put around it (`trim_padded`).
Only of a blank text nothing is left (`trim_eq_empty_iff`).
-/

namespace Settle.Text

variable {α : Type}

theorem dropWhile_append_of_head {p : α → Bool} {l : List α} (h : l.head?.any (!p ·) = true)
    (rest : List α) : (l ++ rest).dropWhile p = l ++ rest := by
  cases l with
  | nil => simp at h
  | cons x xs => exact List.dropWhile_cons_of_neg (by simpa using h)

theorem rdropWhile_append_rtakeWhile (p : α → Bool) (l : List α) :
    l.rdropWhile p ++ l.rtakeWhile p = l := by
  rw [List.rdropWhile, List.rtakeWhile, ← List.reverse_append, List.takeWhile_append_dropWhile,
    List.reverse_reverse]

theorem exists_padding (text : String) :
    ∃ before after, AllBlank before ∧ AllBlank after ∧ text = before ++ trim text ++ after := by
  refine ⟨String.ofList (text.toList.takeWhile isBlank),
    String.ofList ((text.toList.dropWhile isBlank).rtakeWhile isBlank), ?_, ?_, ?_⟩
  · intro c hc
    rw [String.toList_ofList] at hc
    exact List.mem_takeWhile_imp hc
  · intro c hc
    rw [String.toList_ofList] at hc
    exact List.mem_rtakeWhile_imp hc
  · rw [← String.toList_inj, String.toList_append, String.toList_append, toList_trim,
      String.toList_ofList, String.toList_ofList, List.append_assoc, rdropWhile_append_rtakeWhile,
      List.takeWhile_append_dropWhile]

theorem trim_padded {before text after : String} (hb : AllBlank before) (ha : AllBlank after)
    (h : Tight text.toList) : trim (before ++ text ++ after) = text := by
  obtain ⟨head, last⟩ := h
  have front : (before ++ text ++ after).toList.dropWhile isBlank =
      text.toList ++ after.toList := by
    rw [String.toList_append, String.toList_append, List.append_assoc,
      List.dropWhile_append_of_pos hb, dropWhile_append_of_head head]
  have back : (text.toList ++ after.toList).rdropWhile isBlank = text.toList := by
    have kept := dropWhile_append_of_head (l := text.toList.reverse)
      (by rwa [List.head?_reverse]) []
    rw [List.append_nil] at kept
    rw [List.rdropWhile, List.reverse_append,
      List.dropWhile_append_of_pos fun c hc => ha c (List.mem_reverse.mp hc), kept,
      List.reverse_reverse]
  rw [← String.toList_inj, toList_trim, front, back]

theorem trim_eq_empty_iff {text : String} : trim text = "" ↔ AllBlank text := by
  constructor
  · intro empty c hc
    obtain ⟨before, after, hb, ha, split⟩ := exists_padding text
    rw [split, empty, String.append_empty, String.toList_append, List.mem_append] at hc
    exact hc.elim (hb c) (ha c)
  · intro blank
    rw [← String.toList_inj, toList_trim, List.dropWhile_eq_nil_iff.mpr blank]
    rfl

end Settle.Text
