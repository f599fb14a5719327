import Settle.World

/-!
# Actions at a world

An action is a function of the world; these equations say what the combinators of actions and the
basic actions do at a world, and what a command leaves as it was.
-/

namespace Settle.Action

variable {σ α β : Type}

@[simp] theorem bind_apply (x : Action σ α) (f : α → Action σ β) (w : World σ) :
    (x >>= f) w = f (x w).1 (x w).2 := rfl

@[simp] theorem pure_apply (a : α) (w : World σ) : (pure a : Action σ α) w = (a, w) := rfl

@[simp] theorem map_apply (f : α → β) (x : Action σ α) (w : World σ) :
    (f <$> x) w = (f (x w).1, (x w).2) := rfl

@[simp] theorem get_apply (w : World σ) : (get : Action σ (World σ)) w = (w, w) := rfl

theorem pauseFor_true {heeds : Bool} {d : Duration} {w w' : World σ}
    (h : pauseFor heeds d w = (true, w')) : w' = { w with now := w.now + d } := by
  unfold pauseFor at h
  split at h
  · cases h
  · cases h; rfl

/-- A sleep that was cut short ends when a cancellation that is heeded has fired. -/
theorem pauseFor_false {heeds : Bool} {d : Duration} {w w' : World σ}
    (h : pauseFor heeds d w = (false, w')) : heeds = true ∧ w'.isCancelled = true := by
  unfold pauseFor at h
  split at h
  · rename_i woken hw
    cases h
    cases heeds with
    | false => cases hw
    | true =>
      obtain ⟨c, hc, hw⟩ := Option.bind_eq_some_iff.mp hw
      split at hw
      · cases hw
        refine ⟨rfl, ?_⟩
        simp only [World.isCancelled, hc]
        exact decide_eq_true (Nat.le_max_left _ _)
      · cases hw
  · cases h

section Issue

variable [Cluster σ] (i : Invocation) (w : World σ)

@[simp] theorem issue_fst : (issue i w).1 = (Cluster.answer w.now i w.cluster).1.result := rfl

@[simp] theorem issue_log : (issue i w).2.log = i :: w.log := by
  unfold issue; dsimp only; split <;> rfl

@[simp] theorem issue_now : (issue i w).2.now = w.now := by
  unfold issue; dsimp only; split <;> rfl

@[simp] theorem issue_files : (issue i w).2.files = w.files := by
  unfold issue; dsimp only; split <;> rfl

@[simp] theorem issue_names : (issue i w).2.names = w.names := by
  unfold issue; dsimp only; split <;> rfl

@[simp] theorem issue_cluster :
    (issue i w).2.cluster = (Cluster.answer w.now i w.cluster).2 := by
  unfold issue; dsimp only; split <;> rfl

theorem issue_cancelAt (h : (Cluster.answer w.now i w.cluster).1.cancels = false) :
    (issue i w).2.cancelAt = w.cancelAt := by
  simp [issue, h]

end Issue

end Settle.Action
