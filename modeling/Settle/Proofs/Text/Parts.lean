import Settle.Text.Blank
import Settle.Text.Lines

/-!
# Lines and words

`HasLines` and `HasWords` say what the lines and the words of a text are, by the ways in which a
text can go on. Every text has exactly one list of each, the one that is computed (`hasLines_iff`,
`hasWords_iff`).
-/

namespace Settle.Text

/-! ## Lines -/

/-- These are the lines of a text. A line feed ends a line, and so does a carriage return with a
line feed; only the last line may be without an end, and then it is not empty. -/
inductive HasLines : List Char → List String → Prop where
  | none : HasLines [] []
  | last {line : String} : line ≠ "" → '\n' ∉ line.toList → HasLines line.toList [line]
  | feed {line : String} {rest : List Char} {lines : List String} : '\n' ∉ line.toList →
    line.toList.getLast? ≠ some '\r' → HasLines rest lines →
    HasLines (line.toList ++ '\n' :: rest) (line :: lines)
  | returnFeed {line : String} {rest : List Char} {lines : List String} : '\n' ∉ line.toList →
    HasLines rest lines → HasLines (line.toList ++ '\r' :: '\n' :: rest) (line :: lines)

theorem linesFrom_append {line : List Char} (h : '\n' ∉ line) (rev rest : List Char) :
    linesFrom rev (line ++ rest) = linesFrom (line.reverse ++ rev) rest := by
  induction line generalizing rev with
  | nil => rfl
  | cons c cs ih =>
    have hc : c ≠ '\n' := (List.ne_of_not_mem_cons h).symm
    rw [List.cons_append, linesFrom, if_neg hc, ih (List.not_mem_of_not_mem_cons h),
      List.reverse_cons, List.append_assoc]
    rfl

theorem endedLine_reverse {line : List Char} (h : line.getLast? ≠ some '\r') :
    endedLine line.reverse = line := by
  unfold endedLine
  split
  · rename_i rev hrev
    refine absurd ?_ h
    rw [← List.head?_reverse, hrev]
    rfl
  · exact List.reverse_reverse line

theorem HasLines.endedLine {rev rest : List Char} {lines : List String} (h : '\n' ∉ rev)
    (more : HasLines rest lines) :
    HasLines (rev.reverse ++ '\n' :: rest) (String.ofList (endedLine rev) :: lines) := by
  by_cases hr : rev.head? = some '\r'
  · obtain ⟨rev, rfl⟩ := List.head?_eq_some_iff.mp hr
    have key : HasLines ((String.ofList rev.reverse).toList ++ '\r' :: '\n' :: rest)
        (String.ofList rev.reverse :: lines) :=
      .returnFeed (by simpa using List.not_mem_of_not_mem_cons h) more
    simpa [Text.endedLine] using key
  · have hl : Text.endedLine rev = rev.reverse := by
      simpa using @endedLine_reverse rev.reverse (by simpa using hr)
    have key : HasLines ((String.ofList rev.reverse).toList ++ '\n' :: rest)
        (String.ofList rev.reverse :: lines) :=
      .feed (by simpa using h) (by simpa using hr) more
    simpa [hl] using key

theorem hasLines_linesFrom {rev : List Char} (cs : List Char) (h : '\n' ∉ rev) :
    HasLines (rev.reverse ++ cs) ((linesFrom rev cs).map String.ofList) := by
  induction cs generalizing rev with
  | nil =>
    cases rev with
    | nil => exact .none
    | cons c rev =>
      have key : HasLines (String.ofList (c :: rev).reverse).toList
          [String.ofList (c :: rev).reverse] := .last (by simp) (by simpa [and_comm] using h)
      simpa [linesFrom] using key
  | cons c cs ih =>
    by_cases hc : c = '\n'
    · subst hc
      rw [linesFrom, if_pos rfl]
      exact .endedLine h (ih List.not_mem_nil)
    · rw [linesFrom, if_neg hc]
      simpa using ih (List.not_mem_cons_of_ne_of_not_mem (Ne.symm hc) h)

theorem HasLines.eq_linesFrom {cs : List Char} {lines : List String} (h : HasLines cs lines) :
    lines = (linesFrom [] cs).map String.ofList := by
  induction h with
  | none => rfl
  | @last line hne hn =>
    have key := linesFrom_append hn [] []
    rw [List.append_nil, List.append_nil] at key
    simp [key, linesFrom, hne]
  | @feed line rest lines hn hr _ ih =>
    rw [linesFrom_append hn, linesFrom, if_pos rfl, List.append_nil, endedLine_reverse hr, ih]
    simp
  | @returnFeed line rest lines hn _ ih =>
    rw [linesFrom_append hn, linesFrom, if_neg (by decide), linesFrom, if_pos rfl, ih]
    simp [Text.endedLine]

theorem hasLines_iff {text : String} {lines : List String} :
    HasLines text.toList lines ↔ lines = Text.lines text :=
  ⟨HasLines.eq_linesFrom, fun h => h ▸ hasLines_linesFrom text.toList List.not_mem_nil⟩

/-! ## Words -/

/-- These are the words of a text: its maximal runs of characters that are not blank. -/
inductive HasWords : List Char → List String → Prop where
  | none : HasWords [] []
  | blank {c : Char} {rest : List Char} {words : List String} : isBlank c = true →
    HasWords rest words → HasWords (c :: rest) words
  | word {word : String} {rest : List Char} {words : List String} : word ≠ "" →
    (∀ c ∈ word.toList, isBlank c = false) → (∀ c ∈ rest.head?, isBlank c = true) →
    HasWords rest words → HasWords (word.toList ++ rest) (word :: words)

theorem wordsFrom_append {part : List Char} (h : ∀ c ∈ part, isBlank c = false)
    (word rest : List Char) :
    wordsFrom word (part ++ rest) = wordsFrom (part.reverse ++ word) rest := by
  induction part generalizing word with
  | nil => rfl
  | cons c cs ih =>
    obtain ⟨hc, hcs⟩ := List.forall_mem_cons.mp h
    rw [List.cons_append, wordsFrom, if_neg (by simp [hc]), ih hcs, List.reverse_cons,
      List.append_assoc]
    rfl

theorem wordsFrom_of_head {word rest : List Char} (hw : word ≠ [])
    (h : ∀ c ∈ rest.head?, isBlank c = true) :
    wordsFrom word rest = word.reverse :: wordsFrom [] rest := by
  have hw : word.isEmpty = false := by simpa using hw
  cases rest with
  | nil => simp [wordsFrom, hw]
  | cons c cs => simp [wordsFrom, hw, h c rfl]

/-- A word that is complete is put in front of the words of what follows. -/
theorem HasWords.complete {word rest : List Char} (h : ∀ c ∈ word, isBlank c = false)
    (hr : ∀ c ∈ rest.head?, isBlank c = true)
    (more : HasWords rest ((wordsFrom [] rest).map String.ofList)) :
    HasWords (word.reverse ++ rest) ((wordsFrom word rest).map String.ofList) := by
  by_cases hw : word = []
  · subst hw
    exact more
  · rw [wordsFrom_of_head hw hr]
    have key : HasWords ((String.ofList word.reverse).toList ++ rest)
        (String.ofList word.reverse :: (wordsFrom [] rest).map String.ofList) :=
      .word (by simpa using hw) (by simpa using h) hr more
    simpa using key

theorem hasWords_wordsFrom {word : List Char} (cs : List Char)
    (h : ∀ c ∈ word, isBlank c = false) :
    HasWords (word.reverse ++ cs) ((wordsFrom word cs).map String.ofList) := by
  induction cs generalizing word with
  | nil => exact .complete h (by simp) .none
  | cons c cs ih =>
    by_cases hc : isBlank c = true
    · refine .complete h (by simp [hc]) ?_
      rw [wordsFrom, if_pos hc]
      exact .blank hc (@ih [] (by simp))
    · rw [wordsFrom, if_neg hc]
      simpa using @ih (c :: word) (by simpa [hc] using h)

theorem HasWords.eq_wordsFrom {cs : List Char} {words : List String} (h : HasWords cs words) :
    words = (wordsFrom [] cs).map String.ofList := by
  induction h with
  | none => rfl
  | @blank c rest words hc _ ih =>
    rw [wordsFrom, if_pos hc]
    exact ih
  | @word word rest words hne hw hr _ ih =>
    rw [wordsFrom_append hw, wordsFrom_of_head (by simpa using hne) hr, ih]
    simp

theorem hasWords_iff {text : String} {words : List String} :
    HasWords text.toList words ↔ words = Text.words text :=
  ⟨HasWords.eq_wordsFrom, fun h => h ▸ @hasWords_wordsFrom [] text.toList (by simp)⟩

end Settle.Text
