import Settle.Proofs.Wait.Undisturbed

/-!
# Cancelled waits

The attempts of a run, whether it waits or prepares a submission, take no time and leave the
cancellation alone. Without a cancellation the run ends with attempt `j` (`Policy.EndsAt`). A
cancellation after that attempt comes too late; one before it, between two attempts, cuts the pause
short, and nothing follows (`Policy.CutAt`). The two loops differ only in how they judge an attempt,
so their turns are taken for one (`Pace.turn`), and `turns_uncut` and `turns_cut` hold of both.
-/

namespace Settle

variable {σ α β δ ω ε : Type}

/-- The action takes no time and leaves the cancellation alone. -/
structure Action.Instant (x : Action σ β) : Prop where
  now_eq : ∀ w, (x w).2.now = w.now
  cancelAt_eq : ∀ w, (x w).2.cancelAt = w.cancelAt

theorem Action.Instant.cancelAt_worldAt {x : Action σ β} (h : x.Instant) (p : Policy)
    (w : World σ) (k : Nat) : (p.worldAt x w k).cancelAt = w.cancelAt := by
  induction k with
  | zero => rfl
  | succ k ih => exact (h.cancelAt_eq _).trans ih

theorem Action.pauseFor_of_cancelAt (heeds : Bool) (d : Duration) {w : World σ} {c : Duration}
    (hc : w.cancelAt = some c) (hw : w.now ≤ c) :
    Action.pauseFor heeds d w =
      if heeds = true ∧ c < w.now + d then (false, { w with now := c })
      else (true, { w with now := w.now + d }) := by
  unfold Action.pauseFor World.wakeUp
  rw [hc, Option.bind_some, Nat.max_eq_left hw]
  cases heeds with
  | false => simp
  | true => by_cases hcut : c < w.now + d <;> simp [hcut]

/-- Whether a run goes on after a turn. -/
def Turn.goesOn : Turn ω ε → Bool
  | .ended _ => false
  | .again _ => true

theorem Turn.goesOn_iff {t : Turn ω ε} : t.goesOn = true ↔ ∃ e, t = .again e := by
  cases t <;> simp [goesOn]

namespace Policy

/-- Attempt `j` ends a run that is not cancelled: the first attempt after which the run need not go
on, or, when there is none, the one on the deadline. -/
structure EndsAt (p : Policy) (attempt : Action σ β) (goesOn : β → Bool) (w : World σ)
    (j : Nat) : Prop where
  le : j ≤ p.pauses
  before : ∀ i < j, goesOn (attempt (p.worldAt attempt w i)).1 = true
  last : goesOn (attempt (p.worldAt attempt w j)).1 = false ∨ j = p.pauses

theorem exists_endsAt (p : Policy) (attempt : Action σ β) (goesOn : β → Bool) (w : World σ) :
    ∃ j, p.EndsAt attempt goesOn w j := by
  rcases forall_not_or_exists_first
    (P := fun k => goesOn (attempt (p.worldAt attempt w k)).1 = false) p.pauses with
    none | ⟨j, hj, ends, before⟩
  · exact ⟨p.pauses, Nat.le_refl _, fun i hi => eq_true_of_ne_false (none i (Nat.le_of_lt hi)),
      .inr rfl⟩
  · exact ⟨j, hj, fun i hi => eq_true_of_ne_false (before i hi), .inl ends⟩

theorem EndsAt.unique {p : Policy} {attempt : Action σ β} {goesOn : β → Bool} {w : World σ}
    {j k : Nat} (hj : p.EndsAt attempt goesOn w j) (hk : p.EndsAt attempt goesOn w k) : j = k := by
  have not_lt {i n : Nat} (hi : p.EndsAt attempt goesOn w i) (hn : p.EndsAt attempt goesOn w n) :
      ¬ i < n := by
    intro h
    rcases hi.last with stops | rfl
    · rw [hn.before i h] at stops
      cases stops
    · exact Nat.not_lt_of_le hn.le h
  exact Nat.le_antisymm (Nat.le_of_not_lt (not_lt hk hj)) (Nat.le_of_not_lt (not_lt hj hk))

/-- What a cancellation `c` after the start makes of a run that attempt `j` would end. One that
comes later changes nothing. One that comes earlier stops the run on the instant, after the attempts
`0` to `n` that precede it. -/
def CutAt (p : Policy) (attempt : Action σ β) (w : World σ) (c : Duration) (j : Nat) (stopped : ω)
    (run uncancelled : ω × World σ) : Prop :=
  (p.lookAt j < c → run = uncancelled) ∧
    (c < p.lookAt j → ∃ n < j, p.lookAt n < c ∧ c < p.lookAt (n + 1) ∧
      run = (stopped, { (attempt (p.worldAt attempt w n)).2 with now := w.now + c }))

theorem lookAt_mono (p : Policy) {i j : Nat} (h : i ≤ j) : p.lookAt i ≤ p.lookAt j := by
  have hm : i * p.pause ≤ j * p.pause := Nat.mul_le_mul_right _ h
  unfold lookAt Duration at *
  omega

theorem exists_between_looks {p : Policy} {c : Duration} {j : Nat} (between : ∀ k, c ≠ p.lookAt k)
    (h : c < p.lookAt j) : ∃ n < j, p.lookAt n < c ∧ c < p.lookAt (n + 1) := by
  induction j with
  | zero =>
    rw [lookAt_zero] at h
    exact absurd h (Nat.not_lt_zero c)
  | succ j ih =>
    rcases Nat.lt_or_gt_of_ne (between j) with hj | hj
    · obtain ⟨n, hn, hc⟩ := ih hj
      exact ⟨n, Nat.lt_succ_of_lt hn, hc⟩
    · exact ⟨j, Nat.lt_succ_self j, hj, h⟩

theorem ne_lookAt_of_between {p : Policy} {c : Duration} {n : Nat} (after : p.lookAt n < c)
    (before : c < p.lookAt (n + 1)) (k : Nat) : c ≠ p.lookAt k := by
  rintro rfl
  rcases Nat.lt_or_ge n k with h | h
  · exact Nat.lt_irrefl _ (Nat.lt_of_lt_of_le before (p.lookAt_mono h))
  · exact Nat.lt_irrefl _ (Nat.lt_of_le_of_lt (p.lookAt_mono h) after)

end Policy

namespace Pace

/-! ## One turn of either loop -/

/-- One attempt and the pause after it. `stopped` is the result when the run is cancelled, `judge`
tells whether it goes on, and `expire` gives the result when it should but the time is used up. -/
def turn (p : Pace) (stopped : ω) (judge : β → Turn ω ε) (expire : ε → World σ → ω)
    (start : Duration) (attempt : Action σ β) : Action σ (Turn ω ε) := fun w =>
  if p.mustStop w then (.ended stopped, w)
  else match judge (attempt w).1 with
    | .ended r => (.ended r, (attempt w).2)
    | .again e =>
      match p.tick start (attempt w).2 with
      | (.cancelled, w') => (.ended stopped, w')
      | (.expired, w') => (.ended (expire e w'), w')
      | (.retry, w') => (.again e, w')

def judgeLook : Verdict α → Turn (Outcome α) String
  | .converged value => .ended (.success value)
  | .notYet seen => .again seen
  | .fatal cause => .ended (.fatal cause)

/-- How a submission judges an attempt to make its document. -/
def judgeMaking : Except Error δ → Turn (Except Error δ) Error
  | .ok document => .ended (.ok document)
  | .error e => if e.isTransient then .again e else .ended (.error e)

theorem lookOnce_eq_turn (p : Pace) (what : String) (start : Duration)
    (look : Action σ (Verdict α)) :
    p.lookOnce what start look = p.turn (.fatal (.cancelled what)) judgeLook
      (fun seen w => .timedOut (w.now - start) seen) start look := by
  funext w
  rw [lookOnce_apply]
  unfold turn
  split
  · rfl
  · rcases look w with ⟨_ | _ | _, w'⟩ <;> rfl

theorem prepareOnce_eq_turn (p : Pace) (start : Duration) (make : Action σ (Except Error δ)) :
    p.prepareOnce start make = p.turn (.error (.cancelled "submission")) judgeMaking
      (fun e _ => .error e) start make := by
  funext w
  rw [prepareOnce_apply]
  unfold turn
  split
  · rfl
  · rcases make w with ⟨e | _, w'⟩
    · by_cases he : e.isTransient
      · rcases ht : p.tick start w' with ⟨_ | _ | _, w''⟩ <;> simp [judgeMaking, he, ht]
      · simp [judgeMaking, he]
    · rfl

theorem turn_of_mustStop {p : Pace} {w : World σ} (h : p.mustStop w = true) (stopped : ω)
    (judge : β → Turn ω ε) (expire : ε → World σ → ω) (start : Duration) (attempt : Action σ β) :
    p.turn stopped judge expire start attempt w = (.ended stopped, w) := by
  unfold turn
  rw [if_pos h]

section Cancelled

variable {attempt : Action σ β} {w : World σ} {c : Duration}

/-- The pause after attempt `k`, before which the cancellation had not come: it comes in the pause,
or after the pause, or there is no pause any more. -/
theorem tick_at_cancelAt (p : Pace) (instant : attempt.Instant)
    (hc : w.cancelAt = some (w.now + c)) {k : Nat} (hk : p.policy.lookAt k < c) :
    p.tick w.now (attempt (p.policy.worldAt attempt w k)).2 =
      if p.policy.pauses ≤ k then (.expired, (attempt (p.policy.worldAt attempt w k)).2)
      else if p.heedsCancel = true ∧ c < p.policy.lookAt (k + 1) then
        (.cancelled, { (attempt (p.policy.worldAt attempt w k)).2 with now := w.now + c })
      else (.retry, p.policy.worldAt attempt w (k + 1)) := by
  have hn : (attempt (p.policy.worldAt attempt w k)).2.now = w.now + p.policy.lookAt k := by
    rw [instant.now_eq, Policy.worldAt_now]
  have ha : (attempt (p.policy.worldAt attempt w k)).2.cancelAt = some (w.now + c) := by
    rw [instant.cancelAt_eq, instant.cancelAt_worldAt, hc]
  have hs : w.now + p.policy.lookAt k + p.pauseAfter (p.policy.lookAt k) =
      w.now + p.policy.lookAt (k + 1) := by
    rw [Policy.lookAt_succ, Nat.add_assoc]
    rfl
  rw [tick_apply, hn, Nat.add_sub_cancel_left]
  simp only [Policy.timeout_le_lookAt_iff]
  by_cases hlast : p.policy.pauses ≤ k
  · rw [if_pos hlast, if_pos hlast]
  · rw [if_neg hlast, if_neg hlast]
    have before : (attempt (p.policy.worldAt attempt w k)).2.now ≤ w.now + c := by
      rw [hn]
      exact Nat.add_le_add_left (Nat.le_of_lt hk) _
    rw [Action.pauseFor_of_cancelAt _ _ ha before, hn, hs]
    simp only [Duration, Nat.add_lt_add_iff_left]
    by_cases hcut : p.heedsCancel = true ∧ c < p.policy.lookAt (k + 1)
    · rw [if_pos hcut, if_pos hcut]
    · rw [if_neg hcut, if_neg hcut]
      rfl

variable {stopped : ω} {judge : β → Turn ω ε} {expire : ε → World σ → ω}

theorem mustStop_worldAt (p : Pace) (instant : attempt.Instant)
    (hc : w.cancelAt = some (w.now + c)) {k : Nat} (hk : p.policy.lookAt k < c) :
    p.mustStop (p.policy.worldAt attempt w k) = false := by
  have hlt : ¬ w.now + c ≤ w.now + p.policy.lookAt k := by
    unfold Duration at *
    omega
  unfold mustStop World.isCancelled
  rw [instant.cancelAt_worldAt, hc, Policy.worldAt_now]
  simp [hlt]

theorem turn_again (p : Pace) (instant : attempt.Instant) (hc : w.cancelAt = some (w.now + c))
    {k : Nat} (hk : k < p.policy.pauses) (hnext : p.policy.lookAt (k + 1) < c)
    (goesOn : (judge (attempt (p.policy.worldAt attempt w k)).1).goesOn = true) :
    ∃ e, p.turn stopped judge expire w.now attempt (p.policy.worldAt attempt w k) =
      (.again e, p.policy.worldAt attempt w (k + 1)) := by
  obtain ⟨e, he⟩ := Turn.goesOn_iff.mp goesOn
  have hlt : p.policy.lookAt k < c :=
    Nat.lt_of_le_of_lt (p.policy.lookAt_mono (Nat.le_succ k)) hnext
  refine ⟨e, ?_⟩
  unfold turn
  rw [p.mustStop_worldAt instant hc hlt, if_neg (by decide), he]
  dsimp only
  rw [p.tick_at_cancelAt instant hc hlt, if_neg (Nat.not_le.mpr hk),
    if_neg fun h => Nat.lt_asymm h.2 hnext]

/-! ## Runs -/

/-- A run that ends before the cancellation, whether it would heed it or not. -/
theorem turns_uncut (policy : Policy) (stopped : ω) (expire : ε → World σ → ω)
    (instant : attempt.Instant) (hc : w.cancelAt = some (w.now + c)) {j : Nat}
    (ends : policy.EndsAt attempt (fun b => (judge b).goesOn) w j) (late : policy.lookAt j < c) :
    ∃ r, ∀ heeds, Turns ((Pace.mk policy heeds).turn stopped judge expire w.now attempt) j w r
      (attempt (policy.worldAt attempt w j)).2 := by
  have again (heeds : Bool) : ∀ i < j, ∃ e,
      (Pace.mk policy heeds).turn stopped judge expire w.now attempt (policy.worldAt attempt w i) =
        (.again e, policy.worldAt attempt w (i + 1)) := fun i hi =>
    turn_again ⟨policy, heeds⟩ instant hc (Nat.lt_of_lt_of_le hi ends.le)
      (Nat.lt_of_le_of_lt (policy.lookAt_mono hi) late) (ends.before i hi)
  have stop (heeds : Bool) := (Pace.mk policy heeds).mustStop_worldAt instant hc late
  have tick (heeds : Bool) := (Pace.mk policy heeds).tick_at_cancelAt instant hc late
  cases hj : judge (attempt (policy.worldAt attempt w j)).1 with
  | ended r =>
    refine ⟨r, fun heeds => Turns.of_worlds (again heeds) ?_⟩
    unfold turn
    rw [stop heeds, if_neg (by decide), hj]
  | again e =>
    have hlast : policy.pauses ≤ j := by
      rcases ends.last with hf | rfl
      · rw [hj] at hf
        cases hf
      · exact Nat.le_refl _
    refine ⟨expire e (attempt (policy.worldAt attempt w j)).2, fun heeds =>
      Turns.of_worlds (again heeds) ?_⟩
    unfold turn
    rw [stop heeds, if_neg (by decide), hj]
    dsimp only
    rw [tick heeds, if_pos hlast]

/-- A run that is cancelled in the pause after attempt `n`. -/
theorem turns_cut {p : Pace} (heeds : p.heedsCancel = true) (instant : attempt.Instant)
    (hc : w.cancelAt = some (w.now + c)) {j n : Nat}
    (ends : p.policy.EndsAt attempt (fun b => (judge b).goesOn) w j) (hn : n < j)
    (after : p.policy.lookAt n < c) (cut : c < p.policy.lookAt (n + 1)) :
    Turns (p.turn stopped judge expire w.now attempt) n w stopped
      { (attempt (p.policy.worldAt attempt w n)).2 with now := w.now + c } := by
  have hp : n < p.policy.pauses := Nat.lt_of_lt_of_le hn ends.le
  refine Turns.of_worlds (u := p.policy.worldAt attempt w) (fun i hi => ?_) ?_
  · exact p.turn_again instant hc (Nat.lt_trans hi hp)
      (Nat.lt_of_le_of_lt (p.policy.lookAt_mono hi) after) (ends.before i (Nat.lt_trans hi hn))
  · obtain ⟨e, he⟩ := Turn.goesOn_iff.mp (ends.before n hn)
    unfold turn
    rw [p.mustStop_worldAt instant hc after, if_neg (by decide), he]
    dsimp only
    rw [p.tick_at_cancelAt instant hc after, if_neg (Nat.not_le.mpr hp), if_pos ⟨heeds, cut⟩]

/-- What the cancellation makes of a run that follows turns of this form. -/
theorem cutAt_of_turns {policy : Policy} {once : Pace → Action σ (Turn ω ε)}
    (run : Pace → ω × World σ) (instant : attempt.Instant) (hc : w.cancelAt = some (w.now + c))
    (between : ∀ k, c ≠ policy.lookAt k) {j : Nat}
    (ends : policy.EndsAt attempt (fun b => (judge b).goesOn) w j)
    (form : ∀ p, once p = p.turn stopped judge expire w.now attempt)
    (follows : ∀ {heeds k r w'}, Turns (once ⟨policy, heeds⟩) k w r w' → k ≤ policy.pauses →
      run ⟨policy, heeds⟩ = (r, w')) :
    policy.CutAt attempt w c j stopped (run ⟨policy, true⟩) (run ⟨policy, false⟩) := by
  simp only [form] at follows
  constructor
  · intro late
    obtain ⟨r, turns⟩ := turns_uncut policy stopped expire instant hc ends late
    rw [follows (turns true) ends.le, follows (turns false) ends.le]
  · intro early
    obtain ⟨n, hn, after, cut⟩ := Policy.exists_between_looks between early
    have turns : Turns ((Pace.mk policy true).turn stopped judge expire w.now attempt) n w stopped
        { (attempt (policy.worldAt attempt w n)).2 with now := w.now + c } :=
      turns_cut rfl instant hc ends hn after cut
    exact ⟨n, hn, after, cut, follows turns (Nat.le_trans (Nat.le_of_lt hn) ends.le)⟩

end Cancelled

/-! ## Waits and submissions -/

section Loops

variable {policy : Policy} {w : World σ} {c : Duration}

theorem await_cutAt (what : String) {look : Action σ (Verdict α)} (instant : look.Instant)
    (hc : w.cancelAt = some (w.now + c)) (between : ∀ k, c ≠ policy.lookAt k) {j : Nat}
    (ends : policy.EndsAt look (·.outcome?.isNone) w j) :
    policy.CutAt look w c j (.fatal (.cancelled what))
      ((Pace.mk policy true).await what look w) ((Pace.mk policy false).await what look w) := by
  have judged : (fun v : Verdict α => v.outcome?.isNone) = fun v => (judgeLook v).goesOn := by
    funext v
    cases v <;> rfl
  rw [judged] at ends
  exact cutAt_of_turns (fun p => p.await what look w) instant hc between ends
    (fun p => p.lookOnce_eq_turn what w.now look) await_of_turns

theorem prepareFrom_cutAt {make : Action σ (Except Error δ)} (instant : make.Instant)
    (hc : w.cancelAt = some (w.now + c)) (between : ∀ k, c ≠ policy.lookAt k) {j : Nat}
    (ends : policy.EndsAt make isPassing w j) :
    policy.CutAt make w c j (.error (.cancelled "submission"))
      ((Pace.mk policy true).prepareFrom w.now make policy.pauses w)
      ((Pace.mk policy false).prepareFrom w.now make policy.pauses w) := by
  have judged : (isPassing : Except Error δ → Bool) = fun r => (judgeMaking r).goesOn := by
    funext r
    cases r with
    | ok document => rfl
    | error e => by_cases he : e.isTransient <;> simp [isPassing, judgeMaking, Turn.goesOn, he]
  rw [judged] at ends
  exact cutAt_of_turns (fun p => p.prepareFrom w.now make policy.pauses w) instant hc between ends
    (fun p => p.prepareOnce_eq_turn w.now make) prepareFrom_of_turns

/-- A submission that is cancelled while its document is made does not get to apply it. -/
theorem submit_cutAt {make : Action σ (Except Error δ)} (apply : δ → Action σ (Except Error α))
    (instant : make.Instant) (hc : w.cancelAt = some (w.now + c))
    (between : ∀ k, c ≠ policy.lookAt k) {j : Nat} (ends : policy.EndsAt make isPassing w j) :
    policy.CutAt make w c j (.error (.cancelled "submission"))
      ((Pace.mk policy true).submit make apply w) ((Pace.mk policy false).submit make apply w) := by
  obtain ⟨late, early⟩ := prepareFrom_cutAt instant hc between ends
  unfold submit
  simp only [Action.bind_apply, Action.get_apply]
  constructor
  · intro h
    rw [late h]
  · intro h
    obtain ⟨n, hn, after, cut, stopped⟩ := early h
    refine ⟨n, hn, after, cut, ?_⟩
    rw [stopped]
    rfl

end Loops

/-! ## Runs cancelled before they begin -/

theorem await_of_mustStop {p : Pace} {w : World σ} (h : p.mustStop w = true) (what : String)
    (look : Action σ (Verdict α)) : p.await what look w = (.fatal (.cancelled what), w) :=
  await_of_turns (.last (by rw [lookOnce_eq_turn, turn_of_mustStop h])) (Nat.zero_le _)

theorem prepareFrom_of_mustStop {p : Pace} {w : World σ} (h : p.mustStop w = true)
    (make : Action σ (Except Error δ)) (n : Nat) :
    p.prepareFrom w.now make n w = (.error (.cancelled "submission"), w) :=
  prepareFrom_of_turns (.last (by rw [prepareOnce_eq_turn, turn_of_mustStop h])) (Nat.zero_le _)

theorem submit_of_mustStop {p : Pace} {w : World σ} (h : p.mustStop w = true)
    (make : Action σ (Except Error δ)) (apply : δ → Action σ (Except Error α)) :
    p.submit make apply w = (.error (.cancelled "submission"), w) := by
  unfold submit
  simp only [Action.bind_apply, Action.get_apply]
  rw [prepareFrom_of_mustStop h]
  rfl

end Pace

end Settle
