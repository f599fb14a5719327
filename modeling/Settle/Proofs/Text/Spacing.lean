import Settle.Proofs.Text.Parts

/-!
# Words with blanks around them

Words written down in order, with blanks around each of them, are read back as they are, whatever
blanks keep them apart (`words_spread`). Of any other text, too, the words are words, and nothing
but blanks is lost between them (`words_content`).
-/

namespace Settle.Text

/-- A text that can stand as a word: some characters, none of them blank. -/
def IsWord (text : String) : Prop := text ≠ "" ∧ ∀ c ∈ text.toList, isBlank c = false

-- a quantifier over characters could be decided by trying every one there is
instance (text : String) : Decidable (IsWord text) :=
  @instDecidableAnd _ _ _ (List.decidableBAll _ text.toList)

def AllBlank (text : String) : Prop := ∀ c ∈ text.toList, isBlank c = true

instance (text : String) : Decidable (AllBlank text) := List.decidableBAll _ text.toList

/-- The words in order: gap `0` comes before the first of them, and every word is followed by the
next gap. -/
def spread (gap : Nat → String) : List String → String
  | [] => gap 0
  | word :: words => gap 0 ++ word ++ spread (fun i => gap (i + 1)) words

/-- Gaps that keep `n` words apart: all consist of blanks, and between two words there are some. -/
structure Separates (gap : Nat → String) (n : Nat) : Prop where
  blank : ∀ i ≤ n, AllBlank (gap i)
  apart : ∀ i < n, 0 < i → gap i ≠ ""

theorem Separates.tail {gap : Nat → String} {n : Nat} (h : Separates gap (n + 1)) :
    Separates (fun i => gap (i + 1)) n where
  blank i hi := h.blank (i + 1) (Nat.succ_le_succ hi)
  apart i hi _ := h.apart (i + 1) (Nat.succ_lt_succ hi) (Nat.succ_pos i)

theorem Separates.head_spread {gap : Nat → String} {words : List String}
    (h : Separates gap (words.length + 1)) :
    ∀ c ∈ (spread (fun i => gap (i + 1)) words).toList.head?, isBlank c = true := by
  have blank : AllBlank (gap 1) := h.blank 1 (by omega)
  cases words with
  | nil => exact fun c hc => blank c (List.mem_of_mem_head? hc)
  | cons word words =>
    obtain ⟨first, more, split⟩ : ∃ first more, (gap 1).toList = first :: more :=
      List.exists_cons_of_ne_nil (by simpa using h.apart 1 (by simp) (by simp))
    intro c hc
    rw [spread, String.toList_append, String.toList_append, List.append_assoc, split,
      List.cons_append, List.head?_cons, Option.mem_some_iff] at hc
    exact hc ▸ blank first (by simp [split])

theorem HasWords.append_blanks {blanks rest : List Char} {words : List String}
    (h : ∀ c ∈ blanks, isBlank c = true) (more : HasWords rest words) :
    HasWords (blanks ++ rest) words := by
  induction blanks with
  | nil => exact more
  | cons c cs ih =>
    obtain ⟨hc, hcs⟩ := List.forall_mem_cons.mp h
    exact .blank hc (ih hcs)

theorem hasWords_spread {gap : Nat → String} {words : List String}
    (hw : ∀ word ∈ words, IsWord word) (hg : Separates gap words.length) :
    HasWords (spread gap words).toList words := by
  induction words generalizing gap with
  | nil => simpa [spread] using HasWords.append_blanks (hg.blank 0 (Nat.le_refl 0)) .none
  | cons word words ih =>
    obtain ⟨⟨some, solid⟩, hws⟩ := List.forall_mem_cons.mp hw
    have rest : HasWords (word.toList ++ (spread (fun i => gap (i + 1)) words).toList)
        (word :: words) := .word some solid hg.head_spread (ih hws hg.tail)
    rw [spread, String.toList_append, String.toList_append, List.append_assoc]
    exact .append_blanks (hg.blank 0 (Nat.zero_le _)) rest

theorem words_spread {gap : Nat → String} {ws : List String} (hw : ∀ word ∈ ws, IsWord word)
    (hg : Separates gap ws.length) : words (spread gap ws) = ws :=
  (hasWords_iff.mp (hasWords_spread hw hg)).symm

theorem HasWords.isWord {cs : List Char} {words : List String} (h : HasWords cs words) :
    ∀ word ∈ words, IsWord word := by
  induction h with
  | none => exact nofun
  | blank _ _ ih => exact ih
  | word some solid _ _ ih => exact List.forall_mem_cons.mpr ⟨⟨some, solid⟩, ih⟩

/-- The words of a text are words, and together they are the text without its blanks. -/
theorem words_content (text : String) :
    (∀ word ∈ words text, IsWord word) ∧
      (words text).flatMap String.toList = text.toList.filter fun c => !isBlank c := by
  refine ⟨(hasWords_iff.mpr rfl).isWord, ?_⟩
  have flat : (words text).map String.toList = wordsFrom [] text.toList := by
    simp [words, Function.comp_def]
  rw [List.flatMap_def, flat, wordsFrom_flatten, List.reverse_nil, List.nil_append]

theorem words_eq_nil_iff {text : String} : words text = [] ↔ AllBlank text := by
  obtain ⟨solid, content⟩ := words_content text
  constructor
  · intro none
    rw [none, List.flatMap_nil, eq_comm, List.filter_eq_nil_iff] at content
    simpa [AllBlank] using content
  · intro blank
    have empty : (words text).flatMap String.toList = [] := by
      rw [content, List.filter_eq_nil_iff]
      simpa [AllBlank] using blank
    rw [List.eq_nil_iff_forall_not_mem]
    intro word mem
    exact (solid word mem).1 (by simpa using List.flatMap_eq_nil_iff.mp empty word mem)

end Settle.Text
