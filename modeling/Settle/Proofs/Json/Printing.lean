import Settle.Json.Printer
import Settle.Proofs.Command.Classes
import Settle.Proofs.Text.Spacing

/-!
# Printed values

Every JSON value is printed as something that can be seen: each kind of value has a character of its
own that is no blank (`Json.Value.not_blank_compact`).
-/

namespace Settle

theorem Text.not_blank_of_mem {text : String} {c : Char} (solid : isBlank c = false)
    (mem : c ∈ text.toList) : ¬ AllBlank text := by
  intro blank
  rw [blank c mem] at solid
  cases solid

namespace Number

theorem Decimal.mark_mem_render (d : Decimal) :
    '.' ∈ d.render .json ∨ 'e' ∈ d.render .json := by
  unfold render
  dsimp only [NumberStyle.json]
  split
  · exact .inr (by simp)
  · split
    · exact .inl (by simp)
    · exact .inl (by simp)

theorem Binary64.not_blank_render (r : Binary64) : ¬ Text.AllBlank (r.render .json) := by
  cases r with
  | finite negative m e =>
    rcases (Decimal.shortest m e).mark_mem_render with point | exponent
    · exact Text.not_blank_of_mem (c := '.') (by decide) (by simp [render, point])
    · exact Text.not_blank_of_mem (c := 'e') (by decide) (by simp [render, exponent])
  | infinite negative => cases negative <;> decide
  | nan => decide

end Number

namespace Json

theorem Numeral.not_blank_text (n : Numeral) : ¬ Text.AllBlank n.text := by
  cases n with
  | whole n =>
    obtain ⟨sign, k, spelled, -⟩ := CommandFailure.toList_toString_int n
    obtain ⟨c, digit⟩ := List.exists_mem_of_ne_nil (toString k).toList (by
      rw [CommandFailure.toList_toString_nat]
      exact Nat.toDigits_ne_nil)
    refine Text.not_blank_of_mem (c := c) ?_ ?_
    · exact CommandFailure.isBlank_of_isDigit (CommandFailure.isDigit_of_mem_toString digit)
    · rw [text, spelled]
      exact List.mem_append_right sign digit
  | real r => exact r.not_blank_render

/-- Whatever a value is, its text is not blank. -/
theorem Value.not_blank_compact (v : Value) : ¬ Text.AllBlank v.compact := by
  cases v with
  | null => decide
  | bool b => cases b <;> decide
  | number n => simpa [compact, chars] using n.not_blank_text
  | string s =>
    exact Text.not_blank_of_mem (c := '"') (by decide) (by simp [compact, chars, stringText])
  | array items =>
    exact Text.not_blank_of_mem (c := '[') (by decide) (by simp [compact, chars])
  | object members =>
    exact Text.not_blank_of_mem (c := '\x7b') (by decide) (by simp [compact, chars])

end Json

end Settle
