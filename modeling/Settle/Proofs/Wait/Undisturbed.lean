import Mathlib.Data.Nat.Find
import Settle.Proofs.Wait.Turns

/-!
# Undisturbed waits

When the looks of a wait take no time and no cancellation is set that it heeds, its looks fall on
the timetable of the policy: `worldAt` gives the world before each of them. The first verdict that
is not `notYet` ends the wait (`await_of_outcome`); when there is none up to the look on the
deadline, that look does (`await_of_none`). The attempts of a submission go the same way, where
an error that may mend itself stands for `notYet`.
-/

namespace Settle

variable {σ α : Type}

/-- The outcome of a wait that ends with this verdict; none when the wait goes on. -/
def Verdict.outcome? : Verdict α → Option (Outcome α)
  | .converged value => some (.success value)
  | .notYet _ => none
  | .fatal cause => some (.fatal cause)

theorem Verdict.outcome?_eq_none {v : Verdict α} :
    v.outcome? = none ↔ ∃ seen, v = .notYet seen := by
  cases v <;> simp [outcome?]

/-- Whether another attempt follows one with this result, as long as there is time. -/
def isPassing : Except Error α → Bool
  | .ok _ => false
  | .error e => e.isTransient

theorem isPassing_iff {r : Except Error α} :
    isPassing r = true ↔ ∃ e, r = .error e ∧ e.isTransient = true := by
  cases r <;> simp [isPassing]

theorem forall_not_or_exists_first {P : Nat → Prop} (n : Nat) :
    (∀ j ≤ n, ¬ P j) ∨ ∃ k ≤ n, P k ∧ ∀ j < k, ¬ P j := by
  classical
  by_cases h : ∃ k, k ≤ n ∧ P k
  · obtain ⟨hk, hp⟩ := Nat.find_spec h
    refine .inr ⟨Nat.find h, hk, hp, fun j hj hpj => ?_⟩
    exact Nat.find_min h hj ⟨by omega, hpj⟩
  · exact .inl fun j hj hpj => h ⟨j, hj, hpj⟩

theorem first_unique {P : Nat → Prop} {j k : Nat} (hj : P j) (hk : P k)
    (before : ∀ i < j, ¬ P i) (before' : ∀ i < k, ¬ P i) : j = k := by
  rcases Nat.lt_trichotomy j k with h | h | h
  · exact absurd hj (before' j h)
  · exact h
  · exact absurd hk (before k h)

/-- The world before look `k` of a wait that begins in `w`, when no look before it ends the wait. -/
def Policy.worldAt (p : Policy) (look : Action σ α) (w : World σ) : Nat → World σ
  | 0 => w
  | k + 1 => { (look (worldAt p look w k)).2 with now := w.now + p.lookAt (k + 1) }

theorem Policy.worldAt_now (p : Policy) (look : Action σ α) (w : World σ) (k : Nat) :
    (p.worldAt look w k).now = w.now + p.lookAt k := by
  cases k with
  | zero => rw [lookAt_zero]; rfl
  | succ k => rfl

namespace Pace

/-- No cancellation that the pace heeds is set. -/
def Calm (p : Pace) (w : World σ) : Prop := p.heedsCancel = true → w.cancelAt = none

/-- The looks take no time, and none up to look `n` finds or leaves a cancellation that is
heeded. -/
structure Undisturbed (p : Pace) (look : Action σ α) (w : World σ) (n : Nat) : Prop where
  now_eq : ∀ w, (look w).2.now = w.now
  calm : p.Calm w
  calm_after : ∀ k ≤ n, p.Calm (look (p.policy.worldAt look w k)).2

theorem mustStop_of_calm {p : Pace} {w : World σ} (h : p.Calm w) : p.mustStop w = false := by
  unfold mustStop World.isCancelled
  cases hh : p.heedsCancel with
  | false => rfl
  | true => rw [h hh]; rfl

theorem tick_of_calm {p : Pace} {w : World σ} (h : p.Calm w) (start : Duration) :
    p.tick start w =
      if p.policy.timeout ≤ w.now - start then (.expired, w)
      else (.retry, { w with now := w.now + p.pauseAfter (w.now - start) }) := by
  have hs : ∀ d, Action.pauseFor p.heedsCancel d w = (true, { w with now := w.now + d }) := by
    intro d
    unfold Action.pauseFor World.wakeUp
    cases hh : p.heedsCancel with
    | false => rfl
    | true => rw [h hh]; rfl
  rw [tick_apply, hs]

theorem Undisturbed.calm_at {p : Pace} {look : Action σ α} {w : World σ} {k n : Nat}
    (h : p.Undisturbed look w n) (hk : k ≤ n) :
    p.Calm (p.policy.worldAt look w k) := by
  cases k with
  | zero => exact h.calm
  | succ k => exact h.calm_after k (by omega)

theorem Undisturbed.of_le {p : Pace} {look : Action σ α} {w : World σ} {k n : Nat}
    (h : p.Undisturbed look w n) (hk : k ≤ n) : p.Undisturbed look w k :=
  ⟨h.now_eq, h.calm, fun j hj => h.calm_after j (Nat.le_trans hj hk)⟩

/-- After look `k` the timetable goes on with look `k + 1`, unless look `k` was the last one. -/
theorem Undisturbed.tick_at {p : Pace} {look : Action σ α} {w : World σ} {k n : Nat}
    (h : p.Undisturbed look w n) (hk : k ≤ n) :
    p.tick w.now (look (p.policy.worldAt look w k)).2 =
      if p.policy.pauses ≤ k then (.expired, (look (p.policy.worldAt look w k)).2)
      else (.retry, p.policy.worldAt look w (k + 1)) := by
  have hn : (look (p.policy.worldAt look w k)).2.now = w.now + p.policy.lookAt k := by
    rw [h.now_eq, Policy.worldAt_now]
  rw [tick_of_calm (h.calm_after k hk), hn, Nat.add_sub_cancel_left]
  simp only [Policy.timeout_le_lookAt_iff]
  split
  · rfl
  · rw [Policy.worldAt, Policy.lookAt_succ, ← Nat.add_assoc]
    rfl

section Await

variable {p : Pace} {look : Action σ (Verdict α)} {w : World σ} {k n : Nat} (what : String)

theorem Undisturbed.lookOnce_ended (h : p.Undisturbed look w n) (hk : k ≤ n)
    {o : Outcome α} (ho : (look (p.policy.worldAt look w k)).1.outcome? = some o) :
    p.lookOnce what w.now look (p.policy.worldAt look w k) =
      (.ended o, (look (p.policy.worldAt look w k)).2) := by
  rw [lookOnce_apply, mustStop_of_calm (h.calm_at hk), if_neg (by decide)]
  rcases hl : look (p.policy.worldAt look w k) with ⟨value | seen | cause, w'⟩ <;> rw [hl] at ho
  · cases ho; rfl
  · cases ho
  · cases ho; rfl

theorem Undisturbed.lookOnce_notYet (h : p.Undisturbed look w n) (hk : k ≤ n)
    {seen : String} (hv : (look (p.policy.worldAt look w k)).1 = .notYet seen) :
    p.lookOnce what w.now look (p.policy.worldAt look w k) =
      if p.policy.pauses ≤ k then
        (.ended (.timedOut (p.policy.lookAt k) seen), (look (p.policy.worldAt look w k)).2)
      else (.again seen, p.policy.worldAt look w (k + 1)) := by
  have ht := h.tick_at hk
  have hn : (look (p.policy.worldAt look w k)).2.now - w.now = p.policy.lookAt k := by
    rw [h.now_eq, Policy.worldAt_now, Nat.add_sub_cancel_left]
  rw [lookOnce_apply, mustStop_of_calm (h.calm_at hk), if_neg (by decide)]
  rcases hl : look (p.policy.worldAt look w k) with ⟨v, w'⟩
  rw [hl] at hv ht hn
  subst hv
  by_cases hlast : p.policy.pauses ≤ k
  · rw [if_pos hlast] at ht ⊢
    simp [ht, show w'.now - w.now = _ from hn]
  · rw [if_neg hlast] at ht ⊢
    simp [ht]

/-- The first verdict that ends the wait is its outcome. -/
theorem await_of_outcome (h : p.Undisturbed look w k) (hk : k ≤ p.policy.pauses)
    (before : ∀ j < k, (look (p.policy.worldAt look w j)).1.outcome? = none) {o : Outcome α}
    (ho : (look (p.policy.worldAt look w k)).1.outcome? = some o) :
    p.await what look w = (o, (look (p.policy.worldAt look w k)).2) := by
  refine await_of_turns (Turns.of_worlds (u := p.policy.worldAt look w) (k := k) ?_
    (h.lookOnce_ended what (Nat.le_refl k) ho)) hk
  intro j hj
  obtain ⟨seen, hv⟩ := Verdict.outcome?_eq_none.mp (before j hj)
  exact ⟨seen, by rw [h.lookOnce_notYet what (by omega) hv, if_neg (by omega)]⟩

/-- Without a verdict that ends it, the wait ends on the deadline. -/
theorem await_of_none (h : p.Undisturbed look w p.policy.pauses)
    (all : ∀ j ≤ p.policy.pauses, (look (p.policy.worldAt look w j)).1.outcome? = none) :
    ∃ seen, (look (p.policy.worldAt look w p.policy.pauses)).1 = .notYet seen ∧
      p.await what look w = (.timedOut p.policy.timeout seen,
        (look (p.policy.worldAt look w p.policy.pauses)).2) := by
  obtain ⟨seen, hv⟩ := Verdict.outcome?_eq_none.mp (all _ (Nat.le_refl _))
  refine ⟨seen, hv, await_of_turns (Turns.of_worlds (u := p.policy.worldAt look w)
    (k := p.policy.pauses) ?_ ?_) (Nat.le_refl _)⟩
  · intro j hj
    obtain ⟨seen, hv⟩ := Verdict.outcome?_eq_none.mp (all j (by omega))
    exact ⟨seen, by rw [h.lookOnce_notYet what (by omega) hv, if_neg (by omega)]⟩
  · rw [h.lookOnce_notYet what (Nat.le_refl _) hv, if_pos (Nat.le_refl _), Policy.lookAt_pauses]

end Await

section Prepare

variable {p : Pace} {make : Action σ (Except Error α)} {w : World σ} {k n : Nat}

theorem Undisturbed.prepareOnce_ended (h : p.Undisturbed make w n) (hk : k ≤ n)
    (hr : isPassing (make (p.policy.worldAt make w k)).1 = false) :
    p.prepareOnce w.now make (p.policy.worldAt make w k) =
      (.ended (make (p.policy.worldAt make w k)).1, (make (p.policy.worldAt make w k)).2) := by
  rw [prepareOnce_apply, mustStop_of_calm (h.calm_at hk), if_neg (by decide)]
  rcases hm : make (p.policy.worldAt make w k) with ⟨e | _, w'⟩
  · rw [hm] at hr
    have he : e.isTransient = false := hr
    simp [he]
  · rfl

theorem Undisturbed.prepareOnce_passing (h : p.Undisturbed make w n) (hk : k ≤ n)
    {e : Error} (hr : (make (p.policy.worldAt make w k)).1 = .error e) (he : e.isTransient = true) :
    p.prepareOnce w.now make (p.policy.worldAt make w k) =
      if p.policy.pauses ≤ k then (.ended (.error e), (make (p.policy.worldAt make w k)).2)
      else (.again e, p.policy.worldAt make w (k + 1)) := by
  have ht := h.tick_at hk
  rw [prepareOnce_apply, mustStop_of_calm (h.calm_at hk), if_neg (by decide)]
  rcases hm : make (p.policy.worldAt make w k) with ⟨r, w'⟩
  rw [hm] at hr ht
  subst hr
  by_cases hlast : p.policy.pauses ≤ k
  · rw [if_pos hlast] at ht ⊢
    simp [ht, he]
  · rw [if_neg hlast] at ht ⊢
    simp [ht, he]

/-- The attempts end with the first one that does not fail in passing, and with the one on the
deadline at the latest. -/
theorem prepareFrom_of_passing (h : p.Undisturbed make w k) (hk : k ≤ p.policy.pauses)
    (before : ∀ j < k, isPassing (make (p.policy.worldAt make w j)).1 = true)
    (last : k = p.policy.pauses ∨ isPassing (make (p.policy.worldAt make w k)).1 = false) :
    p.prepareFrom w.now make p.policy.pauses w = make (p.policy.worldAt make w k) := by
  refine prepareFrom_of_turns (Turns.of_worlds (u := p.policy.worldAt make w) (k := k) ?_ ?_) hk
  · intro j hj
    obtain ⟨e, hr, he⟩ := isPassing_iff.mp (before j hj)
    exact ⟨e, by rw [h.prepareOnce_passing (by omega) hr he, if_neg (by omega)]⟩
  · cases hp : isPassing (make (p.policy.worldAt make w k)).1 with
    | false => exact h.prepareOnce_ended (Nat.le_refl k) hp
    | true =>
      obtain ⟨e, hr, he⟩ := isPassing_iff.mp hp
      have hlast : p.policy.pauses ≤ k := by
        rcases last with rfl | hq
        · exact Nat.le_refl _
        · rw [hp] at hq; cases hq
      rw [h.prepareOnce_passing (Nat.le_refl k) hr he, if_pos hlast, hr]

end Prepare

end Pace

end Settle
