import Settle.Proofs.Wait.Undisturbed
import Settle.Watch

/-!
# Polling

A wait for a watch issues one and the same command at every look. `Cluster.replyAt` follows a
cluster that is asked like this on the timetable of a policy, without a wait, and
`Client.await_of_verdict` and `Client.await_of_no_verdict` say how the answers decide the wait.
-/

namespace Settle

variable {σ α β : Type} [Cluster σ]

namespace Cluster

/-- The cluster when `q` has been issued at the first `k` instants of a timetable. -/
def stateAt (q : Invocation) (p : Policy) (start : Duration) (s : σ) : Nat → σ
  | 0 => s
  | k + 1 => (answer (start + p.lookAt k) q (stateAt q p start s k)).2

/-- The reply to `q` when it is issued for the time number `k`. -/
def replyAt (q : Invocation) (p : Policy) (start : Duration) (s : σ) (k : Nat) : Reply :=
  (answer (start + p.lookAt k) q (stateAt q p start s k)).1

end Cluster

open Cluster (stateAt replyAt)

/-- The replies to the looks of a wait that begins in `w`. -/
abbrev World.replyAt (w : World σ) (q : Invocation) (p : Policy) (k : Nat) : Reply :=
  Cluster.replyAt q p w.now w.cluster k

section Polled

variable {look : Action σ β} {q : Invocation} {p : Policy} {w : World σ}

/-- A world in which `q` has been issued `k` times on a timetable, and nothing else was done. -/
structure Polled (q : Invocation) (p : Policy) (w : World σ) (k : Nat) (v : World σ) : Prop where
  log : v.log = List.replicate k q ++ w.log
  now : v.now = w.now + p.lookAt k
  files : v.files = w.files
  names : v.names = w.names
  cluster : v.cluster = stateAt q p w.now w.cluster k

theorem Polled.zero : Polled q p w 0 w := ⟨rfl, by rw [Policy.lookAt_zero]; rfl, rfl, rfl, rfl⟩

theorem Polled.issue_fst {k : Nat} {v : World σ} (h : Polled q p w k v) :
    (Action.issue q v).1 = (w.replyAt q p k).result := by
  rw [Action.issue_fst, h.now, h.cluster]
  rfl

/-- A world in which `q` has just been answered for the time number `k` of a timetable. -/
structure Answered (q : Invocation) (p : Policy) (w : World σ) (k : Nat) (v : World σ) : Prop where
  log : v.log = List.replicate (k + 1) q ++ w.log
  now : v.now = w.now + p.lookAt k
  files : v.files = w.files
  names : v.names = w.names
  cluster : v.cluster = stateAt q p w.now w.cluster (k + 1)

theorem Polled.issue {k : Nat} {v : World σ} (h : Polled q p w k v) :
    Answered q p w k (Action.issue q v).2 where
  log := by rw [Action.issue_log, h.log]; rfl
  now := (Action.issue_now q v).trans h.now
  files := (Action.issue_files q v).trans h.files
  names := (Action.issue_names q v).trans h.names
  cluster := by rw [Action.issue_cluster, h.now, h.cluster]; rfl

theorem Answered.pause {k : Nat} {v : World σ} (h : Answered q p w k v) :
    Polled q p w (k + 1) { v with now := w.now + p.lookAt (k + 1) } :=
  ⟨h.log, rfl, h.files, h.names, h.cluster⟩

/-- As long as the looks do no more than issue `q`, the worlds before them are polled. -/
theorem polled_worldAt {k : Nat}
    (only : ∀ j < k, ∀ v, Polled q p w j v → (look v).2 = (Action.issue q v).2) :
    Polled q p w k (p.worldAt look w k) := by
  induction k with
  | zero => exact .zero
  | succ k ih =>
    have before := ih fun j hj => only j (Nat.lt_succ_of_lt hj)
    rw [Policy.worldAt, only k (Nat.lt_succ_self k) _ before]
    exact before.issue.pause

end Polled

/-- No cancellation that the client heeds is set when it begins to poll `q` in `w`, and no reply up
to the deadline sets one. -/
def Client.Uncancelled (c : Client) (q : Invocation) (p : Policy) (w : World σ) : Prop :=
  c.cancellable = true →
    w.cancelAt = none ∧ ∀ k ≤ p.pauses, (w.replyAt q p k).cancels = false

theorem Client.Uncancelled.calm {c : Client} {q : Invocation} {p : Policy} {w : World σ}
    (h : c.Uncancelled q p w) : (c.pace p).Calm w := fun hh => (h hh).1

theorem Action.issue_calm {c : Client} {q : Invocation} {p : Policy} {w v : World σ} {k : Nat}
    (h : c.Uncancelled q p w) (hk : k ≤ p.pauses) (hp : Polled q p w k v)
    (hv : (c.pace p).Calm v) : (c.pace p).Calm (Action.issue q v).2 := by
  intro hh
  rw [Action.issue_cancelAt, hv hh]
  rw [hp.now, hp.cluster]
  exact (h hh).2 k hk

theorem Client.Uncancelled.calm_after_issue {c : Client} {q : Invocation} {p : Policy}
    {look : Action σ β} {w : World σ} {k : Nat} (h : c.Uncancelled q p w) (hk : k ≤ p.pauses)
    (only : ∀ j < k, ∀ v, Polled q p w j v → (look v).2 = (Action.issue q v).2) :
    (c.pace p).Calm (Action.issue q (p.worldAt look w k)).2 := by
  refine Action.issue_calm h hk (polled_worldAt only) ?_
  induction k with
  | zero => exact h.calm
  | succ k ih =>
    have before : ∀ j < k, ∀ v, Polled q p w j v → (look v).2 = (Action.issue q v).2 :=
      fun j hj => only j (Nat.lt_succ_of_lt hj)
    rw [Policy.worldAt, only k (Nat.lt_succ_self k) _ (polled_worldAt before)]
    exact Action.issue_calm h (by omega) (polled_worldAt before) (ih (by omega) before)

section Await

variable {c : Client} {x : Watch α} {p : Policy} {w : World σ} {k : Nat}

theorem Watch.look_apply (x : Watch α) (w : World σ) :
    x.look w = (x.judge (Action.issue x.query w).1, (Action.issue x.query w).2) := rfl

theorem Watch.polled (x : Watch α) (p : Policy) (w : World σ) (k : Nat) :
    Polled x.query p w k (p.worldAt x.look w k) := polled_worldAt fun _ _ _ _ => rfl

theorem Watch.verdict_at (x : Watch α) (p : Policy) (w : World σ) (k : Nat) :
    (x.look (p.worldAt x.look w k)).1 = x.judge (w.replyAt x.query p k).result := by
  rw [look_apply, (x.polled p w k).issue_fst]

theorem Client.Uncancelled.undisturbed (h : c.Uncancelled x.query p w) (hk : k ≤ p.pauses) :
    (c.pace p).Undisturbed x.look w k where
  now_eq := Action.issue_now x.query
  calm := h.calm
  calm_after j hj := h.calm_after_issue (by omega) fun _ _ _ _ => rfl

/-- The first answer with a verdict that ends the wait decides it. -/
theorem Client.await_of_verdict (h : c.Uncancelled x.query p w) (hk : k ≤ p.pauses)
    (before : ∀ j < k, (x.judge (w.replyAt x.query p j).result).outcome? = none) {o : Outcome α}
    (ho : (x.judge (w.replyAt x.query p k).result).outcome? = some o) :
    (c.await x p w).1 = o ∧
      (c.await x p w).2.log = List.replicate (k + 1) x.query ++ w.log ∧
      (c.await x p w).2.now = w.now + p.lookAt k := by
  have verdict (j : Nat) := congrArg Verdict.outcome? (x.verdict_at p w j)
  have ha : c.await x p w = (o, (x.look (p.worldAt x.look w k)).2) :=
    Pace.await_of_outcome x.goal (h.undisturbed hk) hk
      (fun j hj => (verdict j).trans (before j hj)) ((verdict k).trans ho)
  rw [ha]
  have answered := (x.polled p w k).issue
  exact ⟨rfl, answered.log, answered.now⟩

/-- When no answer up to the deadline has such a verdict, the wait times out on the deadline. -/
theorem Client.await_of_no_verdict (h : c.Uncancelled x.query p w)
    (all : ∀ j ≤ p.pauses, (x.judge (w.replyAt x.query p j).result).outcome? = none) :
    (∃ seen, x.judge (w.replyAt x.query p p.pauses).result = .notYet seen ∧
      (c.await x p w).1 = .timedOut p.timeout seen) ∧
      (c.await x p w).2.log = List.replicate (p.pauses + 1) x.query ++ w.log ∧
      (c.await x p w).2.now = w.now + p.lookAt p.pauses := by
  obtain ⟨seen, hv, ha⟩ := Pace.await_of_none x.goal (h.undisturbed (Nat.le_refl _))
    fun j hj => (congrArg Verdict.outcome? (x.verdict_at p w j)).trans (all j hj)
  have ha : c.await x p w =
    (.timedOut p.timeout seen, (x.look (p.worldAt x.look w p.pauses)).2) := ha
  rw [ha]
  have answered := (x.polled p w p.pauses).issue
  exact ⟨⟨seen, (x.verdict_at p w p.pauses).symm.trans hv, rfl⟩, answered.log, answered.now⟩

end Await

end Settle
