import Settle.Proofs.Wait.Undisturbed

/-!
# Waits on given verdicts

A tape holds the verdicts of all looks to come, whatever the cluster, and notes the instant of each
look that is taken. A wait on a tape shows when its looks fall and which verdict it ends with
(`await_tape`).
-/

namespace Settle

variable {α : Type}

/-- The verdicts to come, and the instants of the looks taken, the latest one first. -/
structure Tape (α : Type) where
  verdicts : Nat → Verdict α
  looks : List Duration

namespace Tape

/-- Takes the first verdict off the tape and notes the instant. -/
def look : Action (Tape α) (Verdict α) := fun w =>
  (w.cluster.verdicts 0,
    { w with cluster := ⟨fun n => w.cluster.verdicts (n + 1), w.now :: w.cluster.looks⟩ })

/-- The instants of the first `n` looks of a wait that begins in `w`, the latest one first. -/
def instants (p : Policy) (start : Duration) (n : Nat) : List Duration :=
  ((List.range n).map fun k => start + p.lookAt k).reverse

theorem instants_succ (p : Policy) (start : Duration) (n : Nat) :
    instants p start (n + 1) = (start + p.lookAt n) :: instants p start n := by
  simp [instants, List.range_succ]

theorem cluster_worldAt (p : Policy) (w : World (Tape α)) (k : Nat) :
    (p.worldAt look w k).cluster =
      ⟨fun n => w.cluster.verdicts (n + k), instants p w.now k ++ w.cluster.looks⟩ := by
  induction k with
  | zero => rfl
  | succ k ih =>
    show Tape.mk _ _ = _
    rw [ih, Policy.worldAt_now, instants_succ]
    dsimp only
    congr 1
    funext n
    rw [Nat.add_right_comm, Nat.add_assoc]

theorem verdict_at (p : Policy) (w : World (Tape α)) (k : Nat) :
    (look (p.worldAt look w k)).1 = w.cluster.verdicts k := by
  show (p.worldAt look w k).cluster.verdicts 0 = _
  rw [cluster_worldAt]
  exact congrArg w.cluster.verdicts (Nat.zero_add k)

theorem looks_after (p : Policy) (w : World (Tape α)) (k : Nat) :
    (look (p.worldAt look w k)).2.cluster.looks = instants p w.now (k + 1) ++ w.cluster.looks := by
  show _ :: (p.worldAt look w k).cluster.looks = _
  rw [cluster_worldAt, Policy.worldAt_now, instants_succ]
  rfl

theorem now_after (p : Policy) (w : World (Tape α)) (k : Nat) :
    (look (p.worldAt look w k)).2.now = w.now + p.lookAt k := p.worldAt_now look w k

theorem cancelAt_worldAt (p : Policy) (w : World (Tape α)) (k : Nat) :
    (p.worldAt look w k).cancelAt = w.cancelAt := by
  induction k with
  | zero => rfl
  | succ k ih => exact ih

theorem undisturbed {p : Pace} {w : World (Tape α)} (calm : p.Calm w) (n : Nat) :
    p.Undisturbed look w n where
  now_eq _ := rfl
  calm := calm
  calm_after k _ hh := (cancelAt_worldAt p.policy w k).trans (calm hh)

end Tape

/-- A wait looks at the instants of its timetable until a verdict ends it, and the outcome is that
of the verdict. When no look up to the deadline has such a verdict, the wait has timed out on the
deadline and carries what the last look saw. -/
theorem Pace.await_tape (p : Pace) (what : String) (w : World (Tape α)) (calm : p.Calm w) :
    (∀ k ≤ p.policy.pauses, ∀ o,
      (∀ j < k, (w.cluster.verdicts j).outcome? = none) →
      (w.cluster.verdicts k).outcome? = some o →
      (p.await what Tape.look w).1 = o ∧
      (p.await what Tape.look w).2.now = w.now + p.policy.lookAt k ∧
      (p.await what Tape.look w).2.cluster.looks =
        Tape.instants p.policy w.now (k + 1) ++ w.cluster.looks) ∧
    ((∀ j ≤ p.policy.pauses, (w.cluster.verdicts j).outcome? = none) →
      ∃ seen, w.cluster.verdicts p.policy.pauses = .notYet seen ∧
        (p.await what Tape.look w).1 = .timedOut p.policy.timeout seen ∧
        (p.await what Tape.look w).2.now = w.now + p.policy.timeout ∧
        (p.await what Tape.look w).2.cluster.looks =
          Tape.instants p.policy w.now (p.policy.pauses + 1) ++ w.cluster.looks) := by
  have hu := Tape.undisturbed calm
  constructor
  · intro k hk o before ho
    rw [await_of_outcome what (hu k) hk (fun j hj => by rw [Tape.verdict_at]; exact before j hj)
      (by rw [Tape.verdict_at]; exact ho)]
    exact ⟨rfl, Tape.now_after _ _ _, Tape.looks_after _ _ _⟩
  · intro all
    obtain ⟨seen, hv, ha⟩ := await_of_none what (hu _)
      (fun j hj => by rw [Tape.verdict_at]; exact all j hj)
    rw [Tape.verdict_at] at hv
    rw [ha]
    refine ⟨seen, hv, rfl, ?_, Tape.looks_after _ _ _⟩
    rw [Tape.now_after, Policy.lookAt_pauses]

/-- A pause of three seconds and a timeout of seven: the fourth look falls on the deadline, and what
it sees still counts. -/
theorem Pace.await_tape_on_deadline :
    let p : Pace := ⟨.ofSecs 3 7, true⟩
    let w : World (Tape Nat) :=
      { now := 5, cancelAt := none, log := [], files := .blank, names := .ofSeed 0 8
        cluster := ⟨fun k => if k = 3 then .converged 42 else .notYet "absent", []⟩ }
    p.Calm w ∧ (p.await "presence" Tape.look w).1 = .success 42 ∧
      (p.await "presence" Tape.look w).2.now = 7000000005 ∧
      (p.await "presence" Tape.look w).2.cluster.looks =
        [7000000005, 6000000005, 3000000005, 5] := by
  intro p w
  have calm : p.Calm w := fun _ => rfl
  have hs : w.now = 5 := rfl
  have hk : 3 ≤ p.policy.pauses := by decide
  have ht : p.policy.lookAt 3 = 7000000000 := by decide
  have hi : Tape.instants p.policy 5 4 = [7000000005, 6000000005, 3000000005, 5] := by decide
  obtain ⟨ends, _⟩ := Pace.await_tape p "presence" w calm
  obtain ⟨ho, hn, hl⟩ := ends 3 hk (.success 42)
    (fun j hj => by simp [w, Verdict.outcome?, Nat.ne_of_lt hj]) rfl
  refine ⟨calm, ho, ?_, ?_⟩
  · rw [hn, hs, ht]
  · rw [hl, hs, hi]
    rfl

end Settle
