import Mathlib.Data.List.Chain
import Settle.Proofs.Wait.Notes

/-!
# Looks that take time

A look may take any time, so the looks of a wait drift away from its timetable. What remains is said
of the times that its looks take (`Pace.spans`): they all begin in time, and between two of them
there is a pause, no longer than the policy has it. `lookOnce_ended` and `pauseAfter_bounds` tell
what one turn does, `keepsTime_of_turns` goes along the turns of a wait, and `Pace.await_spans` says
it of the whole.
-/

namespace Settle

variable {σ α : Type}

/-- The time that a look takes. -/
structure Span where
  start : Duration
  stop : Duration
  deriving DecidableEq, Repr

namespace Span

def length (s : Span) : Duration := s.stop - s.start

/-- The second look follows the first one after a pause that the policy allows. -/
def Precedes (p : Policy) (a b : Span) : Prop := a.stop < b.start ∧ b.start ≤ a.stop + p.pause

end Span

/-- A state, and the times of the looks taken, the latest one first. -/
structure Clocked (σ : Type) where
  state : σ
  spans : List Span

namespace Clocked

def start (w : World σ) : World (Clocked σ) := { w with cluster := ⟨w.cluster, []⟩ }

def bare (w : World (Clocked σ)) : World σ := { w with cluster := w.cluster.state }

def timing (look : Action σ (Verdict α)) : Action (Clocked σ) (Verdict α) := fun w =>
  let (verdict, v) := look (bare w)
  (verdict, { v with cluster := ⟨v.cluster, ⟨w.now, v.now⟩ :: w.cluster.spans⟩ })

theorem bare_isView : World.IsView (bare (σ := σ)) := ⟨fun _ _ => rfl, fun _ => rfl⟩

theorem timing_follows (look : Action σ (Verdict α)) :
    Action.Follows bare (timing look) look := fun _ => rfl

theorem timing_spans (look : Action σ (Verdict α)) (w : World (Clocked σ)) :
    (timing look w).2.cluster.spans = ⟨w.now, (timing look w).2.now⟩ :: w.cluster.spans := rfl

end Clocked

open Clocked (timing)

namespace Pace

theorem tick_expired {p : Pace} {start : Duration} {w w' : World σ}
    (h : p.tick start w = (.expired, w')) : p.policy.timeout ≤ w.now - start ∧ w' = w := by
  rw [tick_apply] at h
  split at h
  · cases h
    exact ⟨‹_›, rfl⟩
  · split at h <;> cases h

/-- The last turn of a wait takes a look, unless it finds the wait cancelled. When it times out the
time was used up by the end of the look. -/
theorem lookOnce_ended {p : Pace} {what : String} {start : Duration} {look : Action σ (Verdict α)}
    {w w' : World σ} {o : Outcome α} (h : p.lookOnce what start look w = (.ended o, w')) :
    o = .fatal (.cancelled what) ∧ w' = w ∨
    w'.cluster = (look w).2.cluster ∧ ∀ elapsed seen, o = .timedOut elapsed seen →
      elapsed = (look w).2.now - start ∧ p.policy.timeout ≤ elapsed := by
  rw [lookOnce_apply] at h
  split at h
  · cases h
    exact .inl ⟨rfl, rfl⟩
  · split at h
    · rename_i hl
      cases h
      exact .inr ⟨by rw [hl], nofun⟩
    · rename_i hl
      cases h
      exact .inr ⟨by rw [hl], nofun⟩
    · rename_i v hl
      have kept := p.tick_cluster start v
      rw [hl]
      split at h
      · rename_i ht
        rw [ht] at kept
        cases h
        exact .inr ⟨kept, nofun⟩
      · rename_i ht
        obtain ⟨late, rfl⟩ := tick_expired ht
        cases h
        refine .inr ⟨rfl, fun elapsed seen same => ?_⟩
        cases same
        exact ⟨rfl, late⟩
      · cases h

theorem pauseAfter_bounds (p : Pace) {elapsed : Duration} (early : elapsed < p.policy.timeout) :
    0 < p.pauseAfter elapsed ∧ p.pauseAfter elapsed ≤ p.policy.pause ∧
      elapsed + p.pauseAfter elapsed ≤ p.policy.timeout := by
  have positive := p.policy.pause_pos
  unfold pauseAfter Duration at *
  omega

/-- The look began after the wait and in time. -/
structure InTime (p : Pace) (start : Duration) (s : Span) : Prop where
  begun : start ≤ s.start
  early : s.start ≤ start + p.policy.timeout
  forward : s.start ≤ s.stop

/-- The times of the looks of a wait that began on the instant `start` and took `k` turns to go on
and one to end with `o`. -/
structure KeepsTime (p : Pace) (what : String) (start : Duration) (k : Nat) (spans : List Span)
    (o : Outcome α) : Prop where
  /-- Each turn takes a look, but for a last one that finds the wait cancelled. -/
  count : spans.length = k + 1 ∨ spans.length = k ∧ o = .fatal (.cancelled what)
  inTime : ∀ s ∈ spans, p.InTime start s
  paused : spans.IsChain (Span.Precedes p.policy)
  /-- A wait times out no sooner than it may, and later by no more than its last look takes. -/
  overshoot : ∀ elapsed seen, o = .timedOut elapsed seen →
    ∃ last, spans.getLast? = some last ∧ elapsed = last.stop - start ∧
      p.policy.timeout ≤ elapsed ∧ elapsed ≤ p.policy.timeout + last.length

namespace KeepsTime

variable {p : Pace} {what : String} {start : Duration} {o : Outcome α}

theorem single {s : Span} (inTime : p.InTime start s)
    (expired : ∀ elapsed seen, o = .timedOut elapsed seen →
      elapsed = s.stop - start ∧ p.policy.timeout ≤ elapsed) :
    p.KeepsTime what start 0 [s] o where
  count := .inl rfl
  inTime := by
    intro s' hs
    rw [List.mem_singleton.mp hs]
    exact inTime
  paused := .singleton s
  overshoot elapsed seen same := by
    obtain ⟨rfl, late⟩ := expired elapsed seen same
    refine ⟨s, rfl, rfl, late, ?_⟩
    have early := inTime.early
    unfold Span.length Duration at *
    omega

theorem cons {s : Span} {k : Nat} {spans : List Span} (h : p.KeepsTime what start k spans o)
    (inTime : p.InTime start s) (precedes : ∀ next ∈ spans.head?, s.Precedes p.policy next) :
    p.KeepsTime what start (k + 1) (s :: spans) o where
  count := h.count.imp (congrArg (· + 1)) (And.imp_left (congrArg (· + 1)))
  inTime := List.forall_mem_cons.mpr ⟨inTime, h.inTime⟩
  paused := List.isChain_cons.mpr ⟨precedes, h.paused⟩
  overshoot elapsed seen same := by
    obtain ⟨last, isLast, bounds⟩ := h.overshoot elapsed seen same
    exact ⟨last, by rw [List.getLast?_cons, isLast]; rfl, bounds⟩

end KeepsTime

theorem keepsTime_of_turns {p : Pace} {what : String} {start : Duration}
    {look : Action σ (Verdict α)} (forward : ∀ w, w.now ≤ (look w).2.now) {k : Nat}
    {w w' : World (Clocked σ)} {o : Outcome α}
    (turns : Turns (p.lookOnce what start (timing look)) k w o w') (begun : start ≤ w.now)
    (early : w.now ≤ start + p.policy.timeout) :
    ∃ spans, w'.cluster.spans = spans.reverse ++ w.cluster.spans ∧
      (∀ s ∈ spans.head?, s.start = w.now) ∧ p.KeepsTime what start k spans o := by
  induction turns with
  | @last w w' o ended =>
    have inTime : p.InTime start ⟨w.now, (timing look w).2.now⟩ :=
      ⟨begun, early, forward (Clocked.bare w)⟩
    rcases lookOnce_ended ended with ⟨rfl, rfl⟩ | ⟨kept, expired⟩
    · exact ⟨[], rfl, nofun, .inr ⟨rfl, rfl⟩, nofun, .nil, nofun⟩
    · refine ⟨[⟨w.now, (timing look w).2.now⟩], ?_, ?_, .single inTime expired⟩
      · rw [kept, Clocked.timing_spans]
        rfl
      · rintro s ⟨⟩
        rfl
  | @more k w w₁ w' seen o again rest ih =>
    have inTime : p.InTime start ⟨w.now, (timing look w).2.now⟩ :=
      ⟨begun, early, forward (Clocked.bare w)⟩
    obtain ⟨_, pause⟩ := lookOnce_again again
    obtain ⟨left, rfl⟩ := tick_retry pause
    obtain ⟨positive, short, fits⟩ := p.pauseAfter_bounds left
    have took : w.now ≤ (timing look w).2.now := inTime.forward
    obtain ⟨spans, noted, first, keeps⟩ := ih
      (Nat.le_trans (Nat.le_trans begun took) (Nat.le_add_right _ _))
      (by dsimp only; unfold Duration at *; omega)
    refine ⟨⟨w.now, (timing look w).2.now⟩ :: spans, ?_, ?_, keeps.cons inTime ?_⟩
    · rw [noted, List.reverse_cons, List.append_assoc]
      rfl
    · rintro s ⟨⟩
      rfl
    · intro next hn
      unfold Span.Precedes
      rw [first next hn]
      exact ⟨Nat.lt_add_of_pos_right positive, Nat.add_le_add_left short _⟩

def spans (p : Pace) (what : String) (look : Action σ (Verdict α)) (w : World σ) : List Span :=
  (p.await what (timing look) (Clocked.start w)).2.cluster.spans.reverse

/-- However long the looks of a wait take, it comes to an end: after no more turns than the pauses
of its policy and one, each with one look. All looks begin in time, the first one at once and every
other one after a pause no longer than the policy has it. A wait that times out has used its time up
and exceeds it by no more than its last look takes. To note the times of the looks changes
nothing. -/
theorem await_spans (p : Pace) (what : String) {look : Action σ (Verdict α)}
    (forward : ∀ w, w.now ≤ (look w).2.now) (w : World σ) :
    let noted := p.await what (timing look) (Clocked.start w)
    (noted.1, Clocked.bare noted.2) = p.await what look w ∧
    (∀ s ∈ (p.spans what look w).head?, s.start = w.now) ∧
    ∃ k ≤ p.policy.pauses,
      Turns (p.lookOnce what w.now look) k w (p.await what look w).1 (p.await what look w).2 ∧
      p.KeepsTime what w.now k (p.spans what look w) (p.await what look w).1 := by
  intro noted
  have same : (noted.1, Clocked.bare noted.2) = p.await what look w :=
    await_follows Clocked.bare_isView (Clocked.timing_follows look) p what (Clocked.start w)
  have outcome : noted.1 = (p.await what look w).1 := congrArg Prod.fst same
  have world : Clocked.bare noted.2 = (p.await what look w).2 := congrArg Prod.snd same
  obtain ⟨k, hk, turns⟩ : ∃ k ≤ p.policy.pauses,
      Turns (p.lookOnce what w.now (timing look)) k (Clocked.start w) noted.1 noted.2 :=
    p.await_turns what (Clocked.start w) fun v => forward (Clocked.bare v)
  obtain ⟨spans, taken, first, keeps⟩ := keepsTime_of_turns forward turns (Nat.le_refl _)
    (Nat.le_add_right _ _)
  have all : p.spans what look w = spans := by
    unfold Pace.spans
    rw [taken]
    simp [Clocked.start]
  have bare := turns.follows
    (lookOnce_follows Clocked.bare_isView (Clocked.timing_follows look) p what w.now)
  change Turns _ k w noted.1 (Clocked.bare noted.2) at bare
  change p.KeepsTime what w.now k spans noted.1 at keeps
  rw [outcome, world] at bare
  rw [outcome] at keeps
  rw [all]
  exact ⟨same, first, k, hk, bare, keeps⟩

/-- The first look ends five milliseconds before the deadline. This is all the pause after it, less
than a pause may be otherwise, and the look on the deadline goes four seconds past it. -/
theorem await_spans_past_deadline :
    let p : Pace := ⟨.ofSecs 3 7, false⟩
    let look : Action Unit (Verdict Nat) := fun w =>
      (.notYet "absent",
        { w with now := w.now + if w.now = 5 then 6995000000 else 4000000000 })
    let w : World Unit :=
      { now := 5, cancelAt := none, log := [], files := .blank, names := .ofSeed 0 8
        cluster := () }
    let spans : List Span := [⟨5, 6995000005⟩, ⟨7000000005, 11000000005⟩]
    (∀ v, v.now ≤ (look v).2.now) ∧ p.spans "presence" look w = spans ∧
      (p.await "presence" look w).1 = .timedOut 11000000000 "absent" ∧
      p.KeepsTime (α := Nat) "presence" 5 1 spans (.timedOut 11000000000 "absent") := by
  intro p look w spans
  have forward (v : World Unit) : v.now ≤ (look v).2.now := Nat.le_add_right _ _
  have taken : p.spans "presence" look w = spans := by decide +kernel
  have outcome : (p.await "presence" look w).1 = .timedOut 11000000000 "absent" := by
    have told : (match (p.await "presence" look w).1 with
        | .timedOut elapsed seen => decide (elapsed = 11000000000 ∧ seen = "absent")
        | _ => false) = true := by decide +kernel
    split at told
    · rename_i elapsed seen ended
      obtain ⟨rfl, rfl⟩ := of_decide_eq_true told
      exact ended
    · cases told
  obtain ⟨_, _, k, _, _, keeps⟩ := await_spans p "presence" forward w
  rw [taken, outcome] at keeps
  obtain rfl : k = 1 := by
    rcases keeps.count with two | ⟨_, cancelled⟩
    · exact (Nat.succ.inj two).symm
    · cases cancelled
  exact ⟨forward, taken, outcome, keeps⟩

end Pace

end Settle
