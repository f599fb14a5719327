import Settle.Proofs.Action
import Settle.Proofs.Wait.Timetable
import Settle.Submission

/-!
# Turns

`Turns turn k w r w'`: from `w`, `k` turns go on and the next one ends with `r` in `w'`. It counts
the turns but sets them no limit. The loops of waits and submissions carry one, the number of
pauses. `awaitFrom_of_turns` and `prepareFrom_of_turns` say that the loops follow the turns as far
as the limit allows, `await_turns` and `prepareFrom_turns` that it never cuts them short, as long as
nothing turns the clock back.
-/

namespace Settle

variable {σ α ω ε : Type}

inductive Turns (turn : Action σ (Turn ω ε)) : Nat → World σ → ω → World σ → Prop where
  | last {w w' : World σ} {r : ω} : turn w = (.ended r, w') → Turns turn 0 w r w'
  | more {k : Nat} {w w₁ w' : World σ} {e : ε} {r : ω} :
    turn w = (.again e, w₁) → Turns turn k w₁ r w' → Turns turn (k + 1) w r w'

theorem Turns.of_worlds {turn : Action σ (Turn ω ε)} {r : ω} {w' : World σ} {k : Nat} :
    ∀ {u : Nat → World σ}, (∀ j < k, ∃ e, turn (u j) = (.again e, u (j + 1))) →
      turn (u k) = (.ended r, w') → Turns turn k (u 0) r w' := by
  induction k with
  | zero => intro u _ hl; exact .last hl
  | succ k ih =>
    intro u ha hl
    obtain ⟨e, he⟩ := ha 0 (Nat.succ_pos k)
    exact .more he (ih (u := fun j => u (j + 1)) (fun j hj => ha (j + 1) (by omega)) hl)

/-- A turn that goes on takes place before the deadline, and then takes a whole pause or the rest of
the time. -/
def Advances (turn : Action σ (Turn ω ε)) (p : Policy) (start : Duration) : Prop :=
  ∀ {w w' : World σ} {e : ε}, start ≤ w.now → turn w = (.again e, w') →
    start ≤ w'.now ∧ w.now - start < p.timeout ∧
      min p.timeout (w.now - start + p.pause) ≤ w'.now - start

theorem Turns.exists_of_advances {turn : Action σ (Turn ω ε)} {p : Policy} {start : Duration}
    (advances : Advances turn p start) {n : Nat} {w : World σ} (hs : start ≤ w.now)
    (hn : p.timeout ≤ (w.now - start) + n * p.pause) : ∃ k ≤ n, ∃ r w', Turns turn k w r w' := by
  induction n generalizing w with
  | zero =>
    rcases ht : turn w with ⟨r | e, w'⟩
    · exact ⟨0, Nat.le_refl 0, r, w', .last ht⟩
    · obtain ⟨_, hlt, _⟩ := advances hs ht
      unfold Duration at hlt hn
      omega
  | succ n ih =>
    rcases ht : turn w with ⟨r | e, w₁⟩
    · exact ⟨0, Nat.zero_le _, r, w₁, .last ht⟩
    · obtain ⟨hs', _, hge⟩ := advances hs ht
      have hn' : p.timeout ≤ (w₁.now - start) + n * p.pause := by
        unfold Duration at hge hn ⊢
        rw [Nat.succ_mul] at hn
        omega
      obtain ⟨k, hk, r, w', h⟩ := ih hs' hn'
      exact ⟨k + 1, Nat.succ_le_succ hk, r, w', .more ht h⟩

/-- From the start of a wait, turns that advance end after no more pauses than the policy has. -/
theorem Turns.exists_of_start {turn : Action σ (Turn ω ε)} {p : Policy} {w : World σ}
    (advances : Advances turn p w.now) : ∃ k ≤ p.pauses, ∃ r w', Turns turn k w r w' := by
  refine exists_of_advances advances (Nat.le_refl _) ?_
  rw [Nat.sub_self, Nat.zero_add]
  exact Policy.pauses_le_iff.mp (Nat.le_refl _)

namespace Pace

/-! ## One turn -/

theorem tick_apply (p : Pace) (start : Duration) (w : World σ) :
    p.tick start w =
      if p.policy.timeout ≤ w.now - start then (.expired, w)
      else match Action.pauseFor p.heedsCancel (p.pauseAfter (w.now - start)) w with
        | (true, w') => (.retry, w')
        | (false, w') => (.cancelled, w') := by
  by_cases ht : p.policy.timeout ≤ w.now - start
  · simp [tick, ht]
  · rcases hs : Action.pauseFor p.heedsCancel (p.pauseAfter (w.now - start)) w with ⟨_ | _, w'⟩ <;>
      simp [tick, ht, hs]

theorem tick_retry {p : Pace} {start : Duration} {w w' : World σ}
    (h : p.tick start w = (.retry, w')) :
    w.now - start < p.policy.timeout ∧
      w' = { w with now := w.now + p.pauseAfter (w.now - start) } := by
  rw [tick_apply] at h
  split at h
  · cases h
  · rename_i ht
    split at h
    · rename_i hp
      cases h
      exact ⟨Nat.lt_of_not_le ht, Action.pauseFor_true hp⟩
    · cases h

theorem tick_cluster (p : Pace) (start : Duration) (w : World σ) :
    (p.tick start w).2.cluster = w.cluster := by
  rw [tick_apply]
  split
  · rfl
  · unfold Action.pauseFor
    cases (if p.heedsCancel then w.wakeUp (p.pauseAfter (w.now - start)) else none) <;> rfl

theorem lookOnce_apply (p : Pace) (what : String) (start : Duration)
    (look : Action σ (Verdict α)) (w : World σ) :
    p.lookOnce what start look w =
      if p.mustStop w then (.ended (.fatal (.cancelled what)), w)
      else match look w with
        | (.converged value, w') => (.ended (.success value), w')
        | (.fatal cause, w') => (.ended (.fatal cause), w')
        | (.notYet seen, w') =>
          match p.tick start w' with
          | (.cancelled, w'') => (.ended (.fatal (.cancelled what)), w'')
          | (.expired, w'') => (.ended (.timedOut (w''.now - start) seen), w'')
          | (.retry, w'') => (.again seen, w'') := by
  by_cases hc : p.mustStop w
  · simp [lookOnce, hc]
  · rcases hl : look w with ⟨_ | seen | _, w'⟩
    · simp [lookOnce, hc, hl]
    · rcases ht : p.tick start w' with ⟨_ | _ | _, w''⟩ <;> simp [lookOnce, hc, hl, ht]
    · simp [lookOnce, hc, hl]

theorem prepareOnce_apply (p : Pace) (start : Duration) (make : Action σ (Except Error α))
    (w : World σ) :
    p.prepareOnce start make w =
      if p.mustStop w then (.ended (.error (.cancelled "submission")), w)
      else match make w with
        | (.ok document, w') => (.ended (.ok document), w')
        | (.error e, w') =>
          if e.isTransient then
            match p.tick start w' with
            | (.cancelled, w'') => (.ended (.error (.cancelled "submission")), w'')
            | (.expired, w'') => (.ended (.error e), w'')
            | (.retry, w'') => (.again e, w'')
          else (.ended (.error e), w') := by
  by_cases hc : p.mustStop w
  · simp [prepareOnce, hc]
  · rcases hm : make w with ⟨e | _, w'⟩
    · by_cases he : e.isTransient
      · rcases ht : p.tick start w' with ⟨_ | _ | _, w''⟩ <;>
          simp [prepareOnce, hc, hm, he, ht]
      · simp [prepareOnce, hc, hm, he]
    · simp [prepareOnce, hc, hm]

theorem lookOnce_again {p : Pace} {what : String} {start : Duration}
    {look : Action σ (Verdict α)} {w w' : World σ} {seen : String}
    (h : p.lookOnce what start look w = (.again seen, w')) :
    (look w).1 = .notYet seen ∧ p.tick start (look w).2 = (.retry, w') := by
  rw [lookOnce_apply] at h
  split at h
  · cases h
  · split at h
    · cases h
    · cases h
    · rename_i hl
      split at h
      · cases h
      · cases h
      · rename_i ht
        cases h
        rw [hl]
        exact ⟨rfl, ht⟩

theorem prepareOnce_again {p : Pace} {start : Duration} {make : Action σ (Except Error α)}
    {w w' : World σ} {e : Error} (h : p.prepareOnce start make w = (.again e, w')) :
    (make w).1 = .error e ∧ e.isTransient = true ∧ p.tick start (make w).2 = (.retry, w') := by
  rw [prepareOnce_apply] at h
  split at h
  · cases h
  · split at h
    · cases h
    · rename_i hm
      split at h
      · rename_i he
        split at h
        · cases h
        · cases h
        · rename_i ht
          cases h
          rw [hm]
          exact ⟨rfl, he, ht⟩
      · cases h

theorem tick_advances {p : Pace} {start : Duration} {w w₁ w' : World σ} (hs : start ≤ w.now)
    (hw : w.now ≤ w₁.now) (ht : p.tick start w₁ = (.retry, w')) :
    start ≤ w'.now ∧ w.now - start < p.policy.timeout ∧
      min p.policy.timeout (w.now - start + p.policy.pause) ≤ w'.now - start := by
  obtain ⟨hlt, rfl⟩ := tick_retry ht
  unfold pauseAfter Duration at *
  dsimp only
  omega

theorem lookOnce_advances {p : Pace} {what : String} {start : Duration}
    {look : Action σ (Verdict α)} (forward : ∀ w, w.now ≤ (look w).2.now) :
    Advances (p.lookOnce what start look) p.policy start :=
  fun hs h => tick_advances hs (forward _) (lookOnce_again h).2

theorem prepareOnce_advances {p : Pace} {start : Duration} {make : Action σ (Except Error α)}
    (forward : ∀ w, w.now ≤ (make w).2.now) :
    Advances (p.prepareOnce start make) p.policy start :=
  fun hs h => tick_advances hs (forward _) (prepareOnce_again h).2.2

/-! ## The loops follow the turns -/

theorem awaitFrom_of_turns {p : Pace} {what : String} {start : Duration}
    {look : Action σ (Verdict α)} {k n : Nat} {w w' : World σ} {o : Outcome α}
    (h : Turns (p.lookOnce what start look) k w o w') (hk : k ≤ n) :
    p.awaitFrom what start look n w = (o, w') := by
  induction h generalizing n with
  | last hl => cases n <;> simp [awaitFrom, hl]
  | more ha _ ih =>
    obtain ⟨n, rfl⟩ : ∃ m, n = m + 1 := ⟨n - 1, by omega⟩
    simp [awaitFrom, ha, ih (n := n) (by omega)]

theorem prepareFrom_of_turns {p : Pace} {start : Duration} {make : Action σ (Except Error α)}
    {k n : Nat} {w w' : World σ} {r : Except Error α}
    (h : Turns (p.prepareOnce start make) k w r w') (hk : k ≤ n) :
    p.prepareFrom start make n w = (r, w') := by
  induction h generalizing n with
  | last hl => cases n <;> simp [prepareFrom, hl]
  | more ha _ ih =>
    obtain ⟨n, rfl⟩ : ∃ m, n = m + 1 := ⟨n - 1, by omega⟩
    simp [prepareFrom, ha, ih (n := n) (by omega)]

theorem await_of_turns {p : Pace} {what : String} {look : Action σ (Verdict α)} {k : Nat}
    {w w' : World σ} {o : Outcome α} (h : Turns (p.lookOnce what w.now look) k w o w')
    (hk : k ≤ p.policy.pauses) : p.await what look w = (o, w') :=
  awaitFrom_of_turns h hk

/-- A wait is the loop of its turns: the number of pauses is no limit of its own. -/
theorem await_turns (p : Pace) (what : String) {look : Action σ (Verdict α)} (w : World σ)
    (forward : ∀ w, w.now ≤ (look w).2.now) :
    ∃ k ≤ p.policy.pauses, Turns (p.lookOnce what w.now look) k w
      (p.await what look w).1 (p.await what look w).2 := by
  have advances : Advances (p.lookOnce what w.now look) p.policy w.now := lookOnce_advances forward
  obtain ⟨k, hk, o, w', h⟩ := Turns.exists_of_start advances
  exact ⟨k, hk, by rw [await_of_turns h hk]; exact h⟩

/-- The attempts of a submission are the loop of their turns. -/
theorem prepareFrom_turns (p : Pace) {make : Action σ (Except Error α)} (w : World σ)
    (forward : ∀ w, w.now ≤ (make w).2.now) :
    ∃ k ≤ p.policy.pauses, Turns (p.prepareOnce w.now make) k w
      (p.prepareFrom w.now make p.policy.pauses w).1
      (p.prepareFrom w.now make p.policy.pauses w).2 := by
  obtain ⟨k, hk, r, w', h⟩ := Turns.exists_of_start (prepareOnce_advances forward)
  exact ⟨k, hk, by rw [prepareFrom_of_turns h hk]; exact h⟩

end Pace

end Settle
