import Settle.Text.Search

/-!
# Occurrences at an edge

Where two texts meet a needle may occur that occurs in neither of them: it begins in the first one
and ends in the second. `mayBeginIn` tells from the first text alone whether that is possible,
whatever follows. If it is not, what follows is searched as if it stood alone
(`infix_append_iff_right`), and likewise for what comes before a text in which the needle cannot end
(`infix_append_iff_left`).
-/

namespace Settle.Text

variable {α : Type} [BEq α]

/-- Whether the needle can begin in this text: from some place on the two agree as far as both of
them go. -/
def mayBeginIn (needle : List α) : List α → Bool
  | [] => false
  | x :: text =>
    needle.isPrefixOf (x :: text) || (x :: text).isPrefixOf needle || mayBeginIn needle text

variable [LawfulBEq α]

theorem infix_append_iff_right {needle before : List α} (h : mayBeginIn needle before = false)
    (text : List α) : needle <:+: before ++ text ↔ needle <:+: text := by
  induction before with
  | nil => rfl
  | cons x before ih =>
    obtain ⟨here, later⟩ := Bool.or_eq_false_iff.mp h
    rw [List.cons_append, List.infix_cons_iff, ih later]
    refine or_iff_right fun begins => ?_
    -- the needle and `x :: before` both begin the whole, so one of them begins the other
    have whole : x :: before <+: x :: (before ++ text) := List.prefix_append (x :: before) text
    have agree := List.prefix_or_prefix_of_prefix begins whole
    rw [← List.isPrefixOf_iff_prefix, ← List.isPrefixOf_iff_prefix, ← Bool.or_eq_true,
      here] at agree
    cases agree

/-- A text in which the needle cannot end is one that read backwards it cannot begin in. -/
theorem infix_append_iff_left {needle after : List α}
    (h : mayBeginIn needle.reverse after.reverse = false) (text : List α) :
    needle <:+: text ++ after ↔ needle <:+: text := by
  rw [← List.reverse_infix, List.reverse_append, infix_append_iff_right h, List.reverse_infix]

end Settle.Text
