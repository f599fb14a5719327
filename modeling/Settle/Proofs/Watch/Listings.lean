import Settle.Proofs.Text.Spacing
import Settle.Proofs.Watch.Values

/-!
# Listings

A set reads the names of its objects off one output, as the words of it. Names that stand in the
output with blanks between them are read back in order, one handle each; an output of any other
shape gives names, too, and they are all of it but the blanks. So the wait for an empty set is over
with an output just when nothing else is in it (`ResourceSet.reads_output`).
-/

namespace Settle.ResourceSet

variable {σ : Type} [Cluster σ] (s : ResourceSet) (f : Filter)

/-- A handle for each of these names, with what the set knows of its objects. -/
def handles (names : List String) : List Handle :=
  names.map fun name => ⟨s.client, ⟨s.kind, s.scope, name⟩, .unknown⟩

theorem queries_of_output {w : World σ} {output : String}
    (answered : (Action.issue (s.namesQuery f) w).1 = .ok output) :
    (s.names f w).1 = .ok (Text.words output) ∧
      (s.count f w).1 = .ok (Text.words output).length ∧
      (s.list f w).1 = .ok (s.handles (Text.words output)) := by
  have named : (s.names f w).1 = .ok (Text.words output) := by
    show s.namesIn (Action.issue (s.namesQuery f) w).1 = _
    rw [answered]
    rfl
  refine ⟨named, ?_, ?_⟩
  · show (s.names f w).1.map List.length = _
    rw [named]
    rfl
  · show (s.names f w).1.map _ = _
    rw [named]
    rfl

theorem emptiness_converged_iff {output : String} :
    (s.emptiness f).judge (.ok output) = .converged () ↔ Text.AllBlank output := by
  have met : (s.emptiness f).judge (.ok output) = .converged () ↔
      (Awaited.emptiness s f).MetBy () (.ok output) :=
    Awaited.judge_eq_converged_iff (x := .emptiness s f)
  rw [met, ← Text.words_eq_nil_iff, eq_comm]
  exact Text.hasWords_iff

/-- The names that the queries read from an output are words, and together they are the output
without its blanks. Where words stand in the output with blanks between them, these are the names,
repetitions included. A wait for an empty set that is over as a success with an output has seen a
blank one, and the first answer that is one ends it. -/
theorem reads_output (w : World σ) (output : String) :
    ((Action.issue (s.namesQuery f) w).1 = .ok output →
      ∃ names, (s.names f w).1 = .ok names ∧ (s.count f w).1 = .ok names.length ∧
        (s.list f w).1 = .ok (s.handles names) ∧
        (∀ name ∈ names, Text.IsWord name) ∧
        names.flatMap String.toList = (output.toList.filter fun c => !Text.isBlank c) ∧
        ∀ words gap, (∀ word ∈ words, Text.IsWord word) → Text.Separates gap words.length →
          output = Text.spread gap words → names = words) ∧
    ∀ policy k, (w.replyAt (s.namesQuery f) policy k).result = .ok output →
      let Over := w.EndsWith (s.namesQuery f) policy k (.success ()) (s.awaitEmptiness f policy w)
      (Over → Text.AllBlank output) ∧
      (s.client.Uncancelled (s.namesQuery f) policy w → k ≤ policy.pauses →
        (∀ j < k,
          (Awaited.emptiness s f).LeftOpenBy (w.replyAt (s.namesQuery f) policy j).result) →
        Text.AllBlank output → Over) := by
  constructor
  · intro answered
    obtain ⟨named, counted, listed⟩ := s.queries_of_output f answered
    obtain ⟨solid, content⟩ := Text.words_content output
    refine ⟨Text.words output, named, counted, listed, solid, content, ?_⟩
    rintro words gap hw hg rfl
    exact Text.words_spread hw hg
  · intro policy k answered
    constructor
    · intro ended
      have converged := ended.converged (x := s.emptiness f)
      have answered : (w.replyAt (s.emptiness f).query policy k).result = .ok output := answered
      rw [answered] at converged
      exact (s.emptiness_converged_iff f).mp converged
    · intro uncancelled hk before blank
      have undecided (j : Nat) (hj : j < k) := Awaited.leftOpenBy_iff.mp (before j hj)
      refine Client.await_endsWith (x := s.emptiness f) uncancelled hk undecided ?_
      have answered : (w.replyAt (s.emptiness f).query policy k).result = .ok output := answered
      rw [answered, (s.emptiness_converged_iff f).mpr blank]
      rfl

/-- Three names, one of them twice, with a wide blank, a line end and a tab around them; then an
output of blanks, with which the wait for an empty set is over. -/
theorem reads_output_of_three :
    let s : ResourceSet := ⟨⟨.admin, true⟩, "pod", some "t1"⟩
    let w : World Rehearsal.Script :=
      { now := 0, cancelAt := none, log := [], files := .blank, names := .ofSeed 0 8
        cluster := ⟨[
          { left := some 1, reply := ⟨.ok " p1\u3000p2\n\tp1", false⟩ },
          { reply := ⟨.ok "\u2003\n", false⟩ }]⟩ }
    (s.list {} w).1 = .ok (s.handles ["p1", "p2", "p1"]) ∧
      w.EndsWith (s.namesQuery {}) (.ofSecs 1 3) 1 (.success ())
        (s.awaitEmptiness {} (.ofSecs 1 3) w) := by
  intro s w
  constructor
  · obtain ⟨reads, -⟩ := s.reads_output {} w " p1\u3000p2\n\tp1"
    obtain ⟨names, -, -, listed, -, -, same⟩ := reads rfl
    let gap (i : Nat) : String := [" ", "\u3000", "\n\t"].getD i ""
    have names_eq : names = ["p1", "p2", "p1"] :=
      same ["p1", "p2", "p1"] gap (by decide) ⟨by decide, by decide⟩ rfl
    exact names_eq ▸ listed
  · have calm : w.cluster.Calm := by decide
    have uncancelled := calm.uncancelled rfl s.client (s.namesQuery {}) (.ofSecs 1 3)
    obtain ⟨-, waits⟩ := s.reads_output {} w "\u2003\n"
    obtain ⟨-, converges⟩ := waits (.ofSecs 1 3) 1 rfl
    refine converges uncancelled (by decide) (fun j hj => ?_) (by decide)
    match j, hj with
    | 0, _ => exact Awaited.leftOpenBy_iff.mpr (by decide)

end Settle.ResourceSet
