import Settle.Files.Path

/-!
# Segments of paths

A slash separates what comes before it from what comes after it, so a name without a slash, put
below a directory, is one more segment of the path (`Path.segments_join`).
-/

namespace Settle

namespace Text

theorem splitAll_append_cons (c : Char) (xs ys : List Char) :
    splitAll c (xs ++ c :: ys) = splitAll c xs ++ splitAll c ys := by
  have some (zs : List Char) : splitAll c zs ≠ [] := by
    cases zs with
    | nil => exact List.cons_ne_nil _ _
    | cons z zs =>
      rw [splitAll]
      split
      · exact List.cons_ne_nil _ _
      · split <;> exact List.cons_ne_nil _ _
  induction xs with
  | nil =>
    obtain ⟨part, parts, hy⟩ := List.exists_cons_of_ne_nil (some ys)
    simp [splitAll, hy]
  | cons x xs ih =>
    obtain ⟨part, parts, hx⟩ := List.exists_cons_of_ne_nil (some xs)
    rw [hx, List.cons_append] at ih
    by_cases h : x = c <;> simp [splitAll, hx, ih, h]

theorem splitAll_of_not_mem {c : Char} {cs : List Char} (h : c ∉ cs) : splitAll c cs = [cs] := by
  induction cs with
  | nil => rfl
  | cons d ds ih =>
    have hd : d ≠ c := (List.ne_of_not_mem_cons h).symm
    simp [splitAll, ih (List.not_mem_of_not_mem_cons h), hd]

end Text

namespace Path

theorem segments_append_slash (a b : String) :
    segments (a ++ "/" ++ b) = segments a ++ segments b := by
  have split : (a ++ "/" ++ b).toList = a.toList ++ '/' :: b.toList := by simp
  rw [segments, split, Text.splitAll_append_cons, List.filter_append, List.map_append]
  rfl

/-- A text that can stand for one segment of a path. -/
structure IsSegment (name : String) : Prop where
  ne_empty : name ≠ ""
  no_slash : '/' ∉ name.toList

variable {name : String}

theorem IsSegment.segments (h : IsSegment name) : Path.segments name = [name] := by
  simp [Path.segments, Text.splitAll_of_not_mem h.no_slash, h.ne_empty]

theorem IsSegment.isAbsolute (h : IsSegment name) : Path.isAbsolute name = false := by
  rw [Path.isAbsolute, beq_eq_false_iff_ne]
  intro first
  exact h.no_slash (List.mem_of_mem_head? first)

theorem IsSegment.endsWithSlash_append (h : IsSegment name) (dir : String) :
    endsWithSlash (dir ++ name) = false := by
  have some : name.toList ≠ [] := by simpa using h.ne_empty
  rw [endsWithSlash, beq_eq_false_iff_ne, String.toList_append, List.getLast?_append,
    List.getLast?_eq_some_getLast some, Option.some_or]
  intro last
  exact h.no_slash (Option.some.inj last ▸ List.getLast_mem some)

theorem segments_join (dir : String) (h : IsSegment name) :
    segments (join dir name) = segments dir ++ [name] := by
  rw [join, h.isAbsolute, if_neg Bool.false_ne_true]
  split
  · rename_i closed
    rcases Bool.or_eq_true_iff.mp closed with empty | slash
    · rw [String.isEmpty_iff.mp empty, String.empty_append, h.segments]
      rfl
    · obtain ⟨cs, hcs⟩ := List.getLast?_eq_some_iff.mp (beq_iff_eq.mp slash)
      obtain rfl : dir = String.ofList cs ++ "/" := by
        rw [← String.toList_inj, hcs]
        simp
      have nothing : segments (String.ofList cs ++ "/" ++ "") = segments (String.ofList cs) := by
        rw [segments_append_slash]
        exact List.append_nil _
      rw [String.append_empty] at nothing
      rw [segments_append_slash, h.segments, nothing]
  · rw [segments_append_slash, h.segments]

theorem endsWithSlash_join (dir : String) (h : IsSegment name) :
    endsWithSlash (join dir name) = false := by
  rw [join, h.isAbsolute, if_neg Bool.false_ne_true]
  split <;> exact h.endsWithSlash_append _

end Path

end Settle
