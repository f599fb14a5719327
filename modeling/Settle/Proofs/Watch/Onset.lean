import Settle.Handle
import Settle.Proofs.Watch.Polling
import Settle.Rehearsal.Cluster

/-!
# Conditions that set in

A condition that sets in at some instant and stays is not missed: the first look from that instant
on notices it, less than a pause later, because the last pause is cut so that a look falls on the
deadline (`Policy.exists_first_look`). `Onset.noticed_in_time` says this of any wait, and of the
wait for an object that appears.
-/

namespace Settle

variable {σ τ α β : Type}

/-- From an instant within the timeout on there is a first look, less than a pause later. -/
theorem Policy.exists_first_look {p : Policy} {s : Duration} (h : s ≤ p.timeout) :
    ∃ k ≤ p.pauses, s ≤ p.lookAt k ∧ p.lookAt k < s + p.pause ∧ ∀ j < k, p.lookAt j < s := by
  rcases forall_not_or_exists_first (P := fun k => s ≤ p.lookAt k) p.pauses with
    none | ⟨k, hk, hs, first⟩
  · refine absurd ?_ (none p.pauses (Nat.le_refl _))
    rw [lookAt_pauses]
    exact h
  · have before := fun j hj => Nat.lt_of_not_le (first j hj)
    refine ⟨k, hk, hs, ?_, before⟩
    cases k with
    | zero =>
      rw [lookAt_zero]
      exact Nat.lt_add_left s p.pause_pos
    | succ k =>
      have hb : p.lookAt k < s := before k (Nat.lt_succ_self k)
      rw [lookAt_succ]
      exact Nat.add_lt_add_of_lt_of_le hb (Nat.min_le_left _ _)

/-! ## Waits for a condition that sets in -/

/-- Of the looks of an undisturbed wait, those before `s`, counted from its start, say "not yet",
and those from `s` on have converged. -/
structure Policy.SetsIn (p : Policy) (look : Action σ (Verdict α)) (w : World σ) (s : Duration) :
    Prop where
  before : ∀ k, p.lookAt k < s → ∃ seen, (look (p.worldAt look w k)).1 = .notYet seen
  after : ∀ k, s ≤ p.lookAt k → ∃ value, (look (p.worldAt look w k)).1 = .converged value

namespace Pace

variable {p : Pace} {look : Action σ (Verdict α)} {w : World σ} {s : Duration} (what : String)

theorem await_of_setsIn (h : p.Undisturbed look w p.policy.pauses) (x : p.policy.SetsIn look w s)
    (hs : s ≤ p.policy.timeout) :
    ∃ k, s ≤ p.policy.lookAt k ∧ p.policy.lookAt k < s + p.policy.pause ∧
      ∃ value, (look (p.policy.worldAt look w k)).1 = .converged value ∧
        p.await what look w = (.success value, (look (p.policy.worldAt look w k)).2) := by
  obtain ⟨k, hk, reached, soon, before⟩ := Policy.exists_first_look hs
  obtain ⟨value, hv⟩ := x.after k reached
  refine ⟨k, reached, soon, value, hv, await_of_outcome what (h.of_le hk) hk (fun j hj => ?_) ?_⟩
  · exact Verdict.outcome?_eq_none.mpr (x.before j (before j hj))
  · rw [hv]
    rfl

theorem await_of_setsIn_late (h : p.Undisturbed look w p.policy.pauses)
    (x : p.policy.SetsIn look w s) (hs : p.policy.timeout < s) :
    ∃ seen, (look (p.policy.worldAt look w p.policy.pauses)).1 = .notYet seen ∧
      p.await what look w =
        (.timedOut p.policy.timeout seen, (look (p.policy.worldAt look w p.policy.pauses)).2) :=
  await_of_none what h fun j _ =>
    Verdict.outcome?_eq_none.mpr (x.before j (Nat.lt_of_le_of_lt (p.policy.lookAt_le j) hs))

/-- A wait succeeds just when the condition sets in within the timeout, whatever the interval. -/
theorem isSuccess_await_iff (h : p.Undisturbed look w p.policy.pauses)
    (x : p.policy.SetsIn look w s) :
    (p.await what look w).1.isSuccess = true ↔ s ≤ p.policy.timeout := by
  constructor
  · intro success
    by_contra late
    obtain ⟨seen, _, ha⟩ := await_of_setsIn_late what h x (Nat.lt_of_not_le late)
    rw [ha] at success
    cases success
  · intro hs
    obtain ⟨_, _, _, value, _, ha⟩ := await_of_setsIn what h x hs
    rw [ha]
    rfl

end Pace

/-- A condition that sets in at an instant. What a look sees before, and what it gives from then on,
depends on nothing but the instant of the look. -/
structure Onset (α : Type) where
  instant : Duration
  seen : Duration → String
  value : Duration → α

def Onset.verdict (x : Onset α) (now : Duration) : Verdict α :=
  if now < x.instant then .notYet (x.seen now) else .converged (x.value now)

section Verdicts

variable {x : Onset α} {look : Action σ (Verdict α)}

theorem Onset.verdict_at (follows : ∀ v, (look v).1 = x.verdict v.now) (p : Policy) (w : World σ)
    (k : Nat) :
    (look (p.worldAt look w k)).1 =
      if p.lookAt k < x.instant - w.now then .notYet (x.seen (w.now + p.lookAt k))
      else .converged (x.value (w.now + p.lookAt k)) := by
  rw [follows, Policy.worldAt_now, verdict]
  exact if_congr Nat.lt_sub_iff_add_lt'.symm rfl rfl

theorem Onset.setsIn (follows : ∀ v, (look v).1 = x.verdict v.now) (p : Policy) (w : World σ) :
    p.SetsIn look w (x.instant - w.now) where
  before k hk := ⟨_, (verdict_at follows p w k).trans (if_pos hk)⟩
  after k hk := ⟨_, (verdict_at follows p w k).trans (if_neg (Nat.not_lt_of_le hk))⟩

end Verdicts

/-! ## Objects that appear -/

section Presence

variable [Cluster τ]

open Handle (existsIn)

theorem ObjectRef.presence_converged {o : ObjectRef} {reply : Except CommandFailure String}
    (h : existsIn o reply = .ok true) (c : Client) :
    ((o.presence c).judge reply) = .converged () := by
  cases reply with
  | ok name =>
    simp only [existsIn, Except.ok.injEq, Bool.not_eq_true'] at h
    exact if_neg (Bool.not_eq_true _ ▸ h)
  | error f =>
    by_cases absent : f.kind = .notFound <;> simp [existsIn, absent] at h

theorem ObjectRef.presence_notYet {o : ObjectRef} {reply : Except CommandFailure String}
    (h : existsIn o reply = .ok false) (c : Client) :
    ∃ seen, (o.presence c).judge reply = .notYet seen := by
  cases reply with
  | ok name =>
    simp only [existsIn, Except.ok.injEq, Bool.not_eq_false'] at h
    exact ⟨"get returned no object", if_pos h⟩
  | error f =>
    have absent : f.kind = .notFound := by
      by_contra other
      simp [existsIn, other] at h
    exact ⟨"not found", by simp [presence, absent]⟩

/-- On whatever timetable the cluster is asked from `w` on, the object exists exactly from the
instant `t` on. -/
def Handle.AppearsAt (h : Handle) (w : World τ) (t : Duration) : Prop :=
  ∀ (p : Policy) (k : Nat),
    existsIn h.object (w.replyAt (h.object.nameQuery h.client) p k).result =
      .ok (decide (t ≤ w.now + p.lookAt k))

theorem Handle.AppearsAt.setsIn {h : Handle} {w : World τ} {t : Duration} (x : h.AppearsAt w t)
    (p : Policy) : p.SetsIn (h.object.presence h.client).look w (t - w.now) where
  before k hk := by
    have absent := x p k
    rw [decide_eq_false (Nat.not_le_of_lt (Nat.lt_sub_iff_add_lt'.mp hk))] at absent
    rw [Watch.verdict_at]
    exact ObjectRef.presence_notYet absent h.client
  after k hk := by
    have there := x p k
    rw [decide_eq_true (Nat.sub_le_iff_le_add'.mp hk)] at there
    rw [Watch.verdict_at]
    exact ⟨(), ObjectRef.presence_converged there h.client⟩

theorem Handle.isSuccess_awaitPresence_iff {h : Handle} {w : World τ} {t : Duration}
    (x : h.AppearsAt w t) {policy : Policy}
    (calm : h.client.Uncancelled (h.object.nameQuery h.client) policy w) :
    (h.awaitPresence policy w).1.1.isSuccess = true ↔ t - w.now ≤ policy.timeout :=
  Pace.isSuccess_await_iff _ (calm.undisturbed (Nat.le_refl _)) (x.setsIn policy)

/-! ### In a rehearsal -/

namespace Rehearsal.Script

/-- A rehearsed cluster in which what is asked for appears at an instant, under a name. -/
def appearing (t : Duration) (name : String) : Script :=
  ⟨[{ untilTime := some t, reply := { result := .error (.ofClass .notFound "absent") } },
    { reply := { result := .ok name } }]⟩

theorem answer_appearing (now t : Duration) (name : String) (q : Invocation) :
    Cluster.answer now q (appearing t name) =
      ({ result := if now < t then .error (.ofClass q .notFound "absent") else .ok name },
        appearing t name) := by
  by_cases early : now < t <;>
    simp [Cluster.answer, appearing, Rule.answer, Rule.fits, Rule.spend, Answer.on, Failure.on,
      early, Except.mapError]

theorem stateAt_appearing (q : Invocation) (p : Policy) (start t : Duration) (name : String)
    (k : Nat) : Cluster.stateAt q p start (appearing t name) k = appearing t name := by
  induction k with
  | zero => rfl
  | succ k ih => rw [Cluster.stateAt, ih, answer_appearing]

theorem replyAt_appearing (q : Invocation) (p : Policy) (start t : Duration) (name : String)
    (k : Nat) : Cluster.replyAt q p start (appearing t name) k =
      { result := if start + p.lookAt k < t then .error (.ofClass q .notFound "absent")
          else .ok name } := by
  rw [Cluster.replyAt, stateAt_appearing, answer_appearing]

theorem appearsAt (h : Handle) {w : World Script} {t : Duration} {name : String}
    (cluster : w.cluster = appearing t name) (named : name.isEmpty = false) : h.AppearsAt w t := by
  intro p k
  rw [World.replyAt, cluster, replyAt_appearing]
  by_cases early : w.now + p.lookAt k < t
  · rw [if_pos early, decide_eq_false (Nat.not_le_of_lt early)]
    rfl
  · rw [if_neg early, decide_eq_true (Nat.le_of_not_lt early), existsIn, named]
    rfl

theorem uncancelled (c : Client) (q : Invocation) (p : Policy) {w : World Script} {t : Duration}
    {name : String} (cluster : w.cluster = appearing t name) (calm : w.cancelAt = none) :
    c.Uncancelled q p w :=
  fun _ => ⟨calm, fun k _ => by rw [World.replyAt, cluster, replyAt_appearing]⟩

end Rehearsal.Script

end Presence

/-- A condition that sets in `s` after the start of a wait is noticed if `s` is within the timeout,
and then less than a pause later; if it is not, the wait ends on the deadline. A longer timeout
keeps a success, whatever the intervals. The same goes for an object that appears. -/
theorem Onset.noticed_in_time :
    (∀ {σ α : Type} (p : Pace) (what : String) (x : Onset α) (look : Action σ (Verdict α))
        (w : World σ), (∀ v, (look v).1 = x.verdict v.now) →
      p.Undisturbed look w p.policy.pauses →
      let s := x.instant - w.now
      (s ≤ p.policy.timeout → ∃ e, s ≤ e ∧ e ≤ p.policy.timeout ∧ e < s + p.policy.pause ∧
        (p.await what look w).1 = .success (x.value (w.now + e)) ∧
        (p.await what look w).2.now = w.now + e) ∧
      (p.policy.timeout < s →
        (p.await what look w).1 =
          .timedOut p.policy.timeout (x.seen (w.now + p.policy.timeout)) ∧
        (p.await what look w).2.now = w.now + p.policy.timeout) ∧
      ∀ p' : Pace, p.policy.timeout ≤ p'.policy.timeout →
        p'.Undisturbed look w p'.policy.pauses →
        (p.await what look w).1.isSuccess = true → (p'.await what look w).1.isSuccess = true) ∧
    ∀ {τ : Type} [Cluster τ] (h : Handle) (w : World τ) (t : Duration), h.AppearsAt w t →
      (∀ policy, h.client.Uncancelled (h.object.nameQuery h.client) policy w) →
      ∀ policy,
        ((h.awaitPresence policy w).1.1.isSuccess = true ↔ t - w.now ≤ policy.timeout) ∧
        ∀ policy' : Policy, policy.timeout ≤ policy'.timeout →
          (h.awaitPresence policy w).1.1.isSuccess = true →
          (h.awaitPresence policy' w).1.1.isSuccess = true := by
  refine ⟨fun p what x look w follows undisturbed => ⟨fun hs => ?_, fun hs => ?_, ?_⟩, ?_⟩
  · obtain ⟨k, reached, soon, value, hv, ha⟩ :=
      Pace.await_of_setsIn what undisturbed (setsIn follows p.policy w) hs
    rw [verdict_at follows, if_neg (Nat.not_lt_of_le reached)] at hv
    cases hv
    rw [ha]
    refine ⟨p.policy.lookAt k, reached, p.policy.lookAt_le k, soon, rfl, ?_⟩
    exact (undisturbed.now_eq _).trans (p.policy.worldAt_now look w k)
  · obtain ⟨seen, hv, ha⟩ :=
      Pace.await_of_setsIn_late what undisturbed (setsIn follows p.policy w) hs
    rw [verdict_at follows, Policy.lookAt_pauses, if_pos hs] at hv
    cases hv
    rw [ha]
    refine ⟨rfl, (undisturbed.now_eq _).trans ?_⟩
    rw [Policy.worldAt_now, Policy.lookAt_pauses]
  · intro p' longer undisturbed'
    rw [Pace.isSuccess_await_iff what undisturbed (setsIn follows p.policy w),
      Pace.isSuccess_await_iff what undisturbed' (setsIn follows p'.policy w)]
    exact fun hs => Nat.le_trans hs longer
  · intro τ _ h w t appears calm policy
    have success (policy : Policy) := Handle.isSuccess_awaitPresence_iff appears (calm policy)
    refine ⟨success policy, fun policy' longer => ?_⟩
    rw [success, success]
    exact fun hs => Nat.le_trans hs longer

/-- A look every three seconds and a timeout of seven. What sets in with the deadline is noticed,
and a nanosecond later is too late. So it is with a pod, for which a timeout of six seconds is too
short, however often one looks. -/
theorem Onset.noticed_in_time_on_deadline :
    let p : Pace := ⟨.ofSecs 3 7, false⟩
    let x (t : Duration) : Onset Nat := ⟨t, fun _ => "absent", id⟩
    let look (t : Duration) : Action Unit (Verdict Nat) := fun v => ((x t).verdict v.now, v)
    let w : World Unit :=
      { now := 5, cancelAt := none, log := [], files := .blank, names := .ofSeed 0 8
        cluster := () }
    let h : Handle := ⟨⟨.admin, true⟩, ⟨"pod", some "t1", "p1"⟩, .unknown⟩
    let v : World Rehearsal.Script := { w with cluster := .appearing 7000000005 "pod/p1" }
    (p.await "number" (look 7000000005) w).1 = .success 7000000005 ∧
      (p.await "number" (look 7000000006) w).1 = .timedOut 7000000000 "absent" ∧
      (h.awaitPresence (.ofSecs 3 7) v).1.1.isSuccess = true ∧
      (h.awaitPresence (.ofSecs 1 6) v).1.1.isSuccess = false := by
  intro p x look w h v
  obtain ⟨waits, presence⟩ := Onset.noticed_in_time
  have undisturbed (t : Duration) : p.Undisturbed (look t) w p.policy.pauses :=
    ⟨fun _ => rfl, nofun, fun _ _ => nofun⟩
  have appears : h.AppearsAt v 7000000005 := Rehearsal.Script.appearsAt h rfl (by decide)
  have calm (policy : Policy) := Rehearsal.Script.uncancelled h.client
    (h.object.nameQuery h.client) policy (w := v) rfl rfl
  have start : w.now = 5 := rfl
  have timeout : p.policy.timeout = 7000000000 := by decide
  have remains : (x 7000000005).instant - w.now = 7000000000 := by decide
  obtain ⟨noticed, _⟩ :=
    waits p "number" (x 7000000005) (look 7000000005) w (fun _ => rfl) (undisturbed _)
  obtain ⟨_, missed, _⟩ :=
    waits p "number" (x 7000000006) (look 7000000006) w (fun _ => rfl) (undisturbed _)
  rw [remains, timeout, start] at noticed
  refine ⟨?_, ?_, ?_, ?_⟩
  · obtain ⟨e, after, within, _, success, _⟩ := noticed (Nat.le_refl _)
    obtain rfl : 7000000000 = e := Nat.le_antisymm after within
    exact success
  · exact (missed (by decide)).1
  · exact (presence h v _ appears calm _).1.mpr (by decide)
  · rw [Bool.eq_false_iff, ne_eq, (presence h v _ appears calm _).1]
    decide

end Settle
