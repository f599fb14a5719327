import Settle.Proofs.Watch.Polling
import Settle.Rehearsal.Cluster

/-!
# Answers and success

A wait that succeeds does so on the answer to its last look, which has converged while no answer
before has said anything but "not yet". This holds under any cancellation
(`Client.await_answered`). Without one it is all that success takes: a wait succeeds just when
some answer within its timetable has converged and none before was fatal
(`Client.isSuccess_await_iff`). A rehearsed cluster cancels nothing unless one of its rules does
(`Rehearsal.Script.Calm.uncancelled`).
-/

namespace Settle

variable {σ α : Type}

theorem Verdict.outcome?_eq_success {v : Verdict α} {value : α} :
    v.outcome? = some (.success value) ↔ v = .converged value := by
  cases v <;> simp [outcome?]

theorem Verdict.outcome?_eq_fatal {v : Verdict α} {cause : Error} :
    v.outcome? = some (.fatal cause) ↔ v = .fatal cause := by
  cases v <;> simp [outcome?]

theorem Verdict.ofError_ne_converged (e : Error) (value : α) :
    (Verdict.ofError e : Verdict α) ≠ .converged value := by
  unfold ofError
  split <;> exact nofun

theorem Pace.ended_success {q : Pace} {what : String} {start : Duration}
    {look : Action σ (Verdict α)} {u v : World σ} {value : α}
    (h : q.lookOnce what start look u = (.ended (.success value), v)) :
    look u = (.converged value, v) := by
  rw [lookOnce_apply] at h
  split at h
  · cases h
  · split at h
    · rename_i hl
      cases h
      exact hl
    · cases h
    · split at h <;> cases h

/-- A run from `w` is over with look `k` at the answers to `q`, and gives this outcome. -/
structure World.EndsWith (w : World σ) (q : Invocation) (p : Policy) (k : Nat) (o : Outcome α)
    (run : Outcome α × World σ) : Prop where
  outcome : run.1 = o
  log : run.2.log = List.replicate (k + 1) q ++ w.log
  now : run.2.now = w.now + p.lookAt k

variable [Cluster σ] {c : Client} {x : Watch α} {p : Policy} {w : World σ}

/-- An answer that decides the wait ends it, when the ones before it have left it open. -/
theorem Client.await_endsWith (uncancelled : c.Uncancelled x.query p w) {k : Nat}
    (hk : k ≤ p.pauses)
    (before : ∀ j < k, (x.judge (w.replyAt x.query p j).result).outcome? = none) {o : Outcome α}
    (ho : (x.judge (w.replyAt x.query p k).result).outcome? = some o) :
    w.EndsWith x.query p k o (c.await x p w) := by
  obtain ⟨outcome, log, now⟩ := await_of_verdict uncancelled hk before ho
  exact ⟨outcome, log, now⟩

theorem Client.await_endsWith_last (uncancelled : c.Uncancelled x.query p w)
    (before : ∀ j < p.pauses, (x.judge (w.replyAt x.query p j).result).outcome? = none)
    {seen : String} (last : x.judge (w.replyAt x.query p p.pauses).result = .notYet seen) :
    w.EndsWith x.query p p.pauses (.timedOut p.timeout seen) (c.await x p w) := by
  have undecided : ∀ j ≤ p.pauses, (x.judge (w.replyAt x.query p j).result).outcome? = none := by
    intro j hj
    rcases Nat.lt_or_eq_of_le hj with hj | rfl
    · exact before j hj
    · exact Verdict.outcome?_eq_none.mpr ⟨seen, last⟩
  obtain ⟨⟨seen', same, outcome⟩, log, now⟩ := await_of_no_verdict uncancelled undecided
  rw [last] at same
  cases same
  exact ⟨outcome, log, now⟩

/-- After a look that does not end the wait the command is polled on, at the next instant of the
timetable. -/
theorem Polled.again {k : Nat} {u v : World σ} {seen : String} (h : Polled x.query p w k u)
    (ha : (c.pace p).lookOnce x.goal w.now x.look u = (.again seen, v)) :
    (x.judge (w.replyAt x.query p k).result).outcome? = none ∧ Polled x.query p w (k + 1) v := by
  obtain ⟨hv, ht⟩ := Pace.lookOnce_again ha
  have answered : Answered x.query p w k (x.look u).2 := h.issue
  obtain ⟨-, rfl⟩ := Pace.tick_retry ht
  constructor
  · rw [← h.issue_fst]
    exact congrArg Verdict.outcome? hv
  · have next : (x.look u).2.now + (c.pace p).pauseAfter ((x.look u).2.now - w.now) =
        w.now + p.lookAt (k + 1) := by
      rw [answered.now, Nat.add_sub_cancel_left, Policy.lookAt_succ, ← Nat.add_assoc]
      rfl
    rw [next]
    exact answered.pause

theorem Polled.last {k n : Nat} {u v : World σ} {o : Outcome α} (h : Polled x.query p w k u)
    (turns : Turns ((c.pace p).lookOnce x.goal w.now x.look) n u o v) :
    ∃ u', Polled x.query p w (k + n) u' ∧
      (∀ j, k ≤ j → j < k + n → (x.judge (w.replyAt x.query p j).result).outcome? = none) ∧
      (c.pace p).lookOnce x.goal w.now x.look u' = (.ended o, v) := by
  -- a turn that goes on has polled once more: the turns left start from the next `k`
  induction turns generalizing k with
  | @last u v o hl =>
    exact ⟨u, h, fun j hj hj' => absurd hj (by omega), hl⟩
  | @more n u u₁ v seen o ha _ ih =>
    obtain ⟨undecided, h₁⟩ := h.again ha
    obtain ⟨u', hu', between, hl⟩ := ih h₁
    rw [Nat.add_right_comm] at hu' between
    refine ⟨u', hu', fun j hj hj' => ?_, hl⟩
    rcases Nat.eq_or_lt_of_le hj with rfl | hj
    · exact undecided
    · exact between j hj hj'

/-- Whatever cancels it, a wait that succeeds has issued its command at the first instants of its
timetable. The last answer has converged, to what the wait gives, and none before decided it. -/
theorem Client.await_answered {value : α} (h : (c.await x p w).1 = .success value) :
    ∃ k ≤ p.pauses, x.judge (w.replyAt x.query p k).result = .converged value ∧
      (∀ j < k, (x.judge (w.replyAt x.query p j).result).outcome? = none) ∧
      Answered x.query p w k (c.await x p w).2 := by
  obtain ⟨k, hk, turns⟩ : ∃ k ≤ p.pauses, Turns ((c.pace p).lookOnce x.goal w.now x.look) k w
      (c.await x p w).1 (c.await x p w).2 :=
    (c.pace p).await_turns x.goal w fun w => Nat.le_of_eq (Action.issue_now x.query w).symm
  obtain ⟨u, polled, before, hl⟩ := Polled.zero.last turns
  rw [Nat.zero_add] at polled before
  have hl : (c.pace p).lookOnce x.goal w.now x.look u =
    (.ended (c.await x p w).1, (c.await x p w).2) := hl
  rw [h] at hl
  have looked := Pace.ended_success hl
  refine ⟨k, hk, ?_, fun j hj => before j (Nat.zero_le j) hj, ?_⟩
  · rw [← polled.issue_fst]
    exact congrArg Prod.fst looked
  · rw [← congrArg Prod.snd looked]
    exact polled.issue

theorem Client.await_of_success {value : α} (h : (c.await x p w).1 = .success value) :
    ∃ k ≤ p.pauses, x.judge (w.replyAt x.query p k).result = .converged value ∧
      (∀ j < k, (x.judge (w.replyAt x.query p j).result).outcome? = none) ∧
      (c.await x p w).2.log = List.replicate (k + 1) x.query ++ w.log := by
  obtain ⟨k, hk, converged, before, answered⟩ := await_answered h
  exact ⟨k, hk, converged, before, answered.log⟩

/-- The answer with which a wait is over as a success has converged. -/
theorem World.EndsWith.converged {k : Nat} {value : α}
    (h : w.EndsWith x.query p k (.success value) (c.await x p w)) :
    x.judge (w.replyAt x.query p k).result = .converged value := by
  obtain ⟨k', -, converged, -, log⟩ := Client.await_of_success h.outcome
  rw [h.log, List.append_cancel_right_eq, List.replicate_inj] at log
  obtain rfl : k = k' := by omega
  exact converged

/-! ## Success -/

/-- An answer that converged makes a wait succeed, if no answer before it is fatal: the wait may
have been over before it, but then with a success, too. -/
theorem Client.isSuccess_await_iff (uncancelled : c.Uncancelled x.query p w) :
    (c.await x p w).1.isSuccess = true ↔
      ∃ k ≤ p.pauses, (∃ value, x.judge (w.replyAt x.query p k).result = .converged value) ∧
        ∀ j < k, ∀ cause, x.judge (w.replyAt x.query p j).result ≠ .fatal cause := by
  constructor
  · intro success
    obtain ⟨value, hv⟩ : ∃ value, (c.await x p w).1 = .success value := by
      cases ho : (c.await x p w).1 with
      | success value => exact ⟨value, rfl⟩
      | timedOut _ _ | fatal _ => rw [ho] at success; cases success
    obtain ⟨k, hk, converged, before, -⟩ := await_of_success hv
    refine ⟨k, hk, ⟨value, converged⟩, fun j hj cause fatal => ?_⟩
    have open_j := before j hj
    rw [fatal] at open_j
    cases open_j
  · rintro ⟨k, hk, ⟨value, converged⟩, sound⟩
    rcases forall_not_or_exists_first
      (P := fun j => (x.judge (w.replyAt x.query p j).result).outcome? ≠ none) k with
      none | ⟨n, hn, decided, first⟩
    · refine absurd ?_ (none k (Nat.le_refl k))
      rw [converged]
      exact Option.some_ne_none _
    · have before := fun j hj => Classical.not_not.mp (first j hj)
      cases hv : x.judge (w.replyAt x.query p n).result with
      | converged value' =>
        have ho := Verdict.outcome?_eq_success.mpr hv
        rw [(await_of_verdict uncancelled (Nat.le_trans hn hk) before ho).1]
        rfl
      | notYet seen => rw [hv] at decided; exact absurd rfl decided
      | fatal cause =>
        rcases Nat.lt_or_eq_of_le hn with hn | rfl
        · exact absurd hv (sound n hn cause)
        · rw [converged] at hv
          cases hv

/-! ## Rehearsed clusters that do not cancel -/

namespace Rehearsal

/-- What holds of the replies of all rules holds of the reply to a command, and the rules keep it.
-/
theorem Rule.answer_keeps {β : Type} {P : β → Prop} (now : Duration) (verb : String)
    (args : List String) {rules : List (Rule β)} (h : ∀ r ∈ rules, P r.reply) :
    (∀ b, (answer now verb args rules).1 = some b → P b) ∧
      ∀ r ∈ (answer now verb args rules).2, P r.reply := by
  induction rules with
  | nil => exact ⟨nofun, nofun⟩
  | cons r rest ih =>
    obtain ⟨hr, hrest⟩ := List.forall_mem_cons.mp h
    obtain ⟨found, kept⟩ := ih hrest
    rw [answer]
    split
    · exact ⟨fun b hb => Option.some.inj hb ▸ hr, List.forall_mem_cons.mpr ⟨hr, hrest⟩⟩
    · exact ⟨found, List.forall_mem_cons.mpr ⟨hr, kept⟩⟩

/-- No reply of the script cancels the session. -/
abbrev Script.Calm (s : Script) : Prop := ∀ r ∈ s.rules, r.reply.cancels = false

theorem Script.Calm.answer {s : Script} (h : s.Calm) (now : Duration) (i : Invocation) :
    (Cluster.answer now i s).1.cancels = false ∧ (Cluster.answer now i s).2.Calm := by
  obtain ⟨found, kept⟩ :=
    @Rule.answer_keeps Answer (fun a => a.cancels = false) now i.verb.word i.args s.rules h
  refine ⟨?_, kept⟩
  show ((Rule.answer now i.verb.word i.args s.rules).1.getD { result := .ok "" }).cancels = false
  cases hf : (Rule.answer now i.verb.word i.args s.rules).1 with
  | none => rfl
  | some a => exact found a hf

theorem Script.Calm.stateAt {s : Script} (h : s.Calm) (q : Invocation) (p : Policy)
    (start : Duration) (k : Nat) : (Cluster.stateAt q p start s k).Calm := by
  induction k with
  | zero => exact h
  | succ k ih => exact (ih.answer _ q).2

theorem Script.Calm.uncancelled {w : World Script} (h : w.cluster.Calm) (calm : w.cancelAt = none)
    (c : Client) (q : Invocation) (p : Policy) : c.Uncancelled q p w :=
  fun _ => ⟨calm, fun k _ => ((h.stateAt q p w.now k).answer _ q).1⟩

end Rehearsal

end Settle
