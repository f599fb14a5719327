import Settle.Command.Failure
import Settle.Proofs.Text.Trimming

/-!
# Classes of failures

The class of a text is the most definite one of which a marker occurs in it
(`any_markers_classifyBy`, `rank_le_classifyBy`). So more text never makes the class less definite.
Markers have no blanks at their ends, hence trimming leaves the class alone, and none of them occurs
in what is said of a silent program, hence a failure made again of a failure's message says the same
and has the same class (`classify_stable`).
-/

namespace Settle

namespace FailureClass

/-! ## The most definite class -/

theorem any_markers_classifyBy (found : String → Bool) :
    classifyBy found = .other ∨ (markers (classifyBy found)).any found = true := by
  unfold classifyBy
  split
  · exact .inr ‹_›
  split
  · exact .inr ‹_›
  split
  · exact .inr ‹_›
  split
  · exact .inr ‹_›
  · exact .inl rfl

/-- No class with a marker is more definite than the one given. -/
theorem rank_le_classifyBy {found : String → Bool} {k : FailureClass}
    (h : (markers k).any found = true) : k.rank ≤ (classifyBy found).rank := by
  unfold classifyBy
  cases k with
  | other => exact Nat.zero_le _
  | rejected => rw [if_pos h]; split_ifs <;> decide
  | transient => rw [if_pos h]; split_ifs <;> decide
  | notFound => rw [if_pos h]; split_ifs <;> decide
  | unknownKind => rw [if_pos h]

/-- Who finds more markers gives a class at least as definite. -/
theorem rank_classifyBy_mono {found found' : String → Bool}
    (h : ∀ m, found m = true → found' m = true) :
    (classifyBy found).rank ≤ (classifyBy found').rank := by
  rcases any_markers_classifyBy found with hk | hk
  · rw [hk]
    exact Nat.zero_le _
  · obtain ⟨m, hm, hf⟩ := List.any_eq_true.mp hk
    exact rank_le_classifyBy (List.any_eq_true.mpr ⟨m, hm, h m hf⟩)

theorem classifyBy_congr {found found' : String → Bool}
    (h : ∀ k, ∀ m ∈ markers k, found m = found' m) : classifyBy found = classifyBy found' := by
  have any_eq (k : FailureClass) : (markers k).any found = (markers k).any found' := by
    rw [Bool.eq_iff_iff, List.any_eq_true, List.any_eq_true]
    exact exists_congr fun m => and_congr_right fun hm => by rw [h k m hm]
  simp only [classifyBy, any_eq]

theorem classifyBy_eq_other {found : String → Bool}
    (h : ∀ k, ∀ m ∈ markers k, found m = false) : classifyBy found = .other := by
  rcases any_markers_classifyBy found with hk | hk
  · exact hk
  · obtain ⟨m, hm, hf⟩ := List.any_eq_true.mp hk
    rw [h _ m hm] at hf
    cases hf

theorem tight_of_mem_markers {k : FailureClass} {m : String} (h : m ∈ markers k) :
    Text.Tight m.toList := by
  have all : ∀ m ∈ markers k, Text.Tight m.toList := by cases k <;> decide +kernel
  exact all m h

theorem classify_trim (text : String) : classify (Text.trim text) = classify text :=
  classifyBy_congr fun _ _ hm => Text.contains_trim (tight_of_mem_markers hm) text

/-- The characters that give a marker away: every marker has one of them, and they do not occur in
what is said of a silent program. -/
def isTelling (c : Char) : Bool := c == 'o' || c == 'v' || c == '('

theorem any_isTelling_of_mem_markers {k : FailureClass} {m : String} (h : m ∈ markers k) :
    m.toList.any isTelling = true := by
  have all : ∀ m ∈ markers k, m.toList.any isTelling = true := by cases k <;> decide +kernel
  exact all m h

theorem classify_of_not_telling {text : String} (h : text.toList.any isTelling = false) :
    classify text = .other := by
  refine classifyBy_eq_other fun k m hm => ?_
  obtain ⟨c, hc, telling⟩ := List.any_eq_true.mp (any_isTelling_of_mem_markers hm)
  by_contra found
  rw [Bool.not_eq_false, Text.contains_iff_isInfix] at found
  exact List.any_eq_false.mp h c (found.subset hc) telling

end FailureClass

namespace CommandFailure

open FailureClass (isTelling classify)

theorem toList_toString_nat (n : Nat) : (toString n).toList = Nat.toDigits 10 n := by
  rw [Nat.toString_eq_repr, Nat.repr_eq_ofList_toDigits, String.toList_ofList]

theorem isDigit_of_mem_toString {n : Nat} {c : Char} (h : c ∈ (toString n).toList) :
    c.isDigit = true := by
  rw [toList_toString_nat] at h
  exact Nat.isDigit_of_mem_toDigits (by decide) (by decide) h

theorem toList_toString_int (code : Int) :
    ∃ sign n, (toString code).toList = sign ++ (toString (n : Nat)).toList ∧
      (sign = [] ∨ sign = ['-']) := by
  cases code with
  | ofNat n => exact ⟨[], n, rfl, .inl rfl⟩
  | negSucc n => exact ⟨['-'], n + 1, String.toList_append, .inr rfl⟩

theorem isBlank_of_isDigit {c : Char} (h : c.isDigit = true) : Text.isBlank c = false := by
  have range : 48 ≤ c.toNat ∧ c.toNat ≤ 57 := by
    simp only [Char.isDigit, Bool.and_eq_true, decide_eq_true_eq] at h
    exact h
  simp [Text.isBlank]
  omega

theorem isTelling_of_isDigit {c : Char} (h : c.isDigit = true) : isTelling c = false := by
  rw [Bool.eq_false_iff]
  intro telling
  simp only [isTelling, Bool.or_eq_true, beq_iff_eq] at telling
  rcases telling with (rfl | rfl) | rfl <;> cases h

theorem not_telling_silentMessage (code : Option Int) :
    (silentMessage code).toList.any isTelling = false := by
  cases code with
  | none => decide +kernel
  | some code =>
    obtain ⟨sign, n, hcode, hsign⟩ := toList_toString_int code
    have fixed : "exit status ".toList.any isTelling = false := by decide +kernel
    have signs : sign.any isTelling = false := by
      rcases hsign with rfl | rfl <;> rfl
    have digits : (toString n).toList.any isTelling = false :=
      List.any_eq_false.mpr fun c hc => by
        rw [isTelling_of_isDigit (isDigit_of_mem_toString hc)]
        exact Bool.false_ne_true
    rw [silentMessage, String.toList_append, hcode, List.any_append, List.any_append, fixed, signs,
      digits]
    rfl

theorem tight_silentMessage (code : Option Int) : Text.Tight (silentMessage code).toList := by
  cases code with
  | none => decide
  | some code =>
    obtain ⟨sign, n, hcode, -⟩ := toList_toString_int code
    have hne : (toString n).toList ≠ [] := by
      rw [toList_toString_nat]
      exact Nat.toDigits_ne_nil
    rw [silentMessage, String.toList_append, hcode]
    refine ⟨rfl, ?_⟩
    rw [← List.append_assoc, List.getLast?_append_of_ne_nil _ hne,
      List.getLast?_eq_some_getLast hne, Option.any_some,
      isBlank_of_isDigit (isDigit_of_mem_toString (List.getLast_mem hne))]
    rfl

/-! ## Failed commands -/

section OfExit

variable (i : Invocation) (code : Option Int) (stderr : String)

theorem ofExit_kind : (ofExit i code stderr).kind = classify stderr := by
  simp only [ofExit, FailureClass.classify_trim]

theorem ofExit_message :
    (ofExit i code stderr).message =
      if Text.trim stderr = "" then silentMessage code else Text.trim stderr := by
  simp only [ofExit, String.isEmpty_iff]

/-- A failure always says something, without blanks around it. -/
theorem tight_ofExit_message : Text.Tight (ofExit i code stderr).message.toList := by
  rw [ofExit_message]
  split
  · exact tight_silentMessage code
  · exact Text.tight_trim ‹_›

theorem classify_ofExit_message : classify (ofExit i code stderr).message = classify stderr := by
  rw [ofExit_message]
  split
  · rename_i silent
    rw [← FailureClass.classify_trim stderr, silent,
      FailureClass.classify_of_not_telling (not_telling_silentMessage code)]
    exact (FailureClass.classify_of_not_telling (by simp)).symm
  · exact FailureClass.classify_trim stderr

end OfExit

end CommandFailure

/-- More text around a text never makes its class less definite. Trimming an error stream does not
change its class, and a failure that is made again, of what a failure says, says the same and has
the same class, even if the program had said nothing. -/
theorem FailureClass.classify_stable :
    (∀ before text after : String,
      (classify text).rank ≤ (classify (before ++ text ++ after)).rank) ∧
    ∀ (i j : Invocation) (code code' : Option Int) (stderr : String),
      let failure := CommandFailure.ofExit i code stderr
      let again := CommandFailure.ofExit j code' failure.message
      failure.kind = classify stderr ∧
        again.message = failure.message ∧ again.kind = failure.kind := by
  constructor
  · intro before text after
    exact rank_classifyBy_mono fun _ => Text.contains_append before after
  · intro i j code code' stderr failure again
    have tight := CommandFailure.tight_ofExit_message i code stderr
    have trimmed : Text.trim failure.message = failure.message := Text.trim_of_tight tight
    have said : failure.message ≠ "" := by
      intro silent
      rw [show (CommandFailure.ofExit i code stderr).message = "" from silent] at tight
      exact absurd tight (by decide)
    have kind : failure.kind = classify stderr := CommandFailure.ofExit_kind i code stderr
    refine ⟨kind, ?_, ?_⟩
    · calc again.message
        _ = if Text.trim failure.message = "" then CommandFailure.silentMessage code'
            else Text.trim failure.message := CommandFailure.ofExit_message j code' failure.message
        _ = failure.message := by rw [trimmed, if_neg said]
    · calc again.kind
        _ = classify failure.message := CommandFailure.ofExit_kind j code' failure.message
        _ = classify stderr := CommandFailure.classify_ofExit_message i code stderr
        _ = failure.kind := kind.symm

end Settle
