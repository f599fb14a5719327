import Settle.Proofs.Wait.Cancellation

/-!
# Notes change nothing

A state can carry notes on what is done to it. A view shows the state without them, and an action on
the one follows an action on the other when the view shows nothing else (`Action.Follows`). The
loops of waits and submissions pass this on from their attempts: the turns of both
(`Pace.turn_follows`), and from them the waits and the making of documents.
-/

namespace Settle

variable {σ τ α β δ ω ε : Type}

/-- What is seen of a world has its clock, which can be set on either side, and its cancellation. -/
structure World.IsView (view : World τ → World σ) : Prop where
  setNow : ∀ w t, view { w with now := t } = { view w with now := t }
  cancelAt_eq : ∀ w, (view w).cancelAt = w.cancelAt

theorem World.IsView.now_eq {view : World τ → World σ} (seen : World.IsView view) (w : World τ) :
    (view w).now = w.now := congrArg World.now (seen.setNow w w.now)

/-- What is seen of the first action is what the second one does. -/
def Action.Follows (view : World τ → World σ) (y : Action τ β) (x : Action σ β) : Prop :=
  ∀ w, ((y w).1, view (y w).2) = x (view w)

theorem Turns.follows {view : World τ → World σ} {y : Action τ (Turn ω ε)}
    {x : Action σ (Turn ω ε)} (h : Action.Follows view y x) {k : Nat} {w w' : World τ} {r : ω}
    (turns : Turns y k w r w') : Turns x k (view w) r (view w') := by
  induction turns with
  | @last w w' r ended => exact .last (by rw [← h w, ended])
  | @more k w w₁ w' e r again rest ih => exact .more (by rw [← h w, again]) ih

section

variable {view : World τ → World σ} (seen : World.IsView view)

include seen

theorem Action.pauseFor_follows (heeds : Bool) (d : Duration) :
    Action.Follows view (Action.pauseFor heeds d) (Action.pauseFor heeds d) := by
  intro w
  have woken : (view w).wakeUp d = w.wakeUp d := by
    unfold World.wakeUp
    rw [seen.cancelAt_eq, seen.now_eq]
  unfold Action.pauseFor
  rw [woken, seen.now_eq]
  cases (if heeds then w.wakeUp d else none) with
  | none => exact congrArg (Prod.mk true) (seen.setNow w _)
  | some c => exact congrArg (Prod.mk false) (seen.setNow w c)

namespace Pace

theorem tick_follows (p : Pace) (start : Duration) :
    Action.Follows view (p.tick start) (p.tick start) := by
  intro w
  have paused := Action.pauseFor_follows seen p.heedsCancel (p.pauseAfter (w.now - start)) w
  rw [tick_apply, tick_apply, seen.now_eq, ← paused]
  split
  · rfl
  · rcases Action.pauseFor p.heedsCancel (p.pauseAfter (w.now - start)) w with ⟨_ | _, v⟩ <;> rfl

theorem turn_follows {y : Action τ β} {x : Action σ β} (h : Action.Follows view y x) (p : Pace)
    (stopped : ω) (judge : β → Turn ω ε) (expire : ε → Duration → ω) (start : Duration) :
    Action.Follows view (p.turn stopped judge (fun e w => expire e w.now) start y)
      (p.turn stopped judge (fun e w => expire e w.now) start x) := by
  intro w
  have stop : p.mustStop (view w) = p.mustStop w := by
    unfold mustStop World.isCancelled
    rw [seen.cancelAt_eq, seen.now_eq]
  unfold turn
  rw [stop, ← h]
  split
  · rfl
  · cases judge (y w).1 with
    | ended r => rfl
    | again e =>
      dsimp only
      rw [← tick_follows seen]
      rcases p.tick start (y w).2 with ⟨_ | _ | _, v⟩
      · rfl
      · dsimp only
        rw [seen.now_eq]
      · rfl

theorem lookOnce_follows {y : Action τ (Verdict α)} {x : Action σ (Verdict α)}
    (h : Action.Follows view y x) (p : Pace) (what : String) (start : Duration) :
    Action.Follows view (p.lookOnce what start y) (p.lookOnce what start x) := by
  rw [lookOnce_eq_turn, lookOnce_eq_turn]
  exact turn_follows seen h p _ _ (fun last now => Outcome.timedOut (now - start) last) start

theorem awaitFrom_follows {y : Action τ (Verdict α)} {x : Action σ (Verdict α)}
    (h : Action.Follows view y x) (p : Pace) (what : String) (start : Duration) (n : Nat) :
    Action.Follows view (p.awaitFrom what start y n) (p.awaitFrom what start x n) := by
  have once := lookOnce_follows seen h p what start
  induction n with
  | zero =>
    intro w
    unfold awaitFrom
    rw [Action.bind_apply, Action.bind_apply, ← once]
    rcases p.lookOnce what start y w with ⟨_ | last, v⟩
    · rfl
    · show (Outcome.timedOut (v.now - start) last, view v) =
        (Outcome.timedOut ((view v).now - start) last, view v)
      rw [seen.now_eq]
  | succ n ih =>
    intro w
    unfold awaitFrom
    rw [Action.bind_apply, Action.bind_apply, ← once]
    rcases p.lookOnce what start y w with ⟨_ | _, v⟩
    · rfl
    · exact ih v

theorem await_follows {y : Action τ (Verdict α)} {x : Action σ (Verdict α)}
    (h : Action.Follows view y x) (p : Pace) (what : String) :
    Action.Follows view (p.await what y) (p.await what x) := by
  intro w
  show _ = p.awaitFrom what (view w).now x p.policy.pauses (view w)
  rw [seen.now_eq]
  exact awaitFrom_follows seen h p what w.now p.policy.pauses w

theorem prepareFrom_follows {y : Action τ (Except Error δ)} {x : Action σ (Except Error δ)}
    (h : Action.Follows view y x) (p : Pace) (start : Duration) (n : Nat) :
    Action.Follows view (p.prepareFrom start y n) (p.prepareFrom start x n) := by
  have once : Action.Follows view (p.prepareOnce start y) (p.prepareOnce start x) := by
    rw [prepareOnce_eq_turn, prepareOnce_eq_turn]
    exact turn_follows seen h p _ _ (fun e _ => Except.error e) start
  induction n with
  | zero =>
    intro w
    unfold prepareFrom
    rw [Action.bind_apply, Action.bind_apply, ← once]
    rcases p.prepareOnce start y w with ⟨_ | _, v⟩ <;> rfl
  | succ n ih =>
    intro w
    unfold prepareFrom
    rw [Action.bind_apply, Action.bind_apply, ← once]
    rcases p.prepareOnce start y w with ⟨_ | _, v⟩
    · rfl
    · exact ih v

end Pace

end

end Settle
