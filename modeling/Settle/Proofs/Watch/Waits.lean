import Settle.Handle
import Settle.ResourceSet
import Settle.Proofs.Watch.Polling
import Settle.Rehearsal.Cluster

/-!
# The waits and failing commands

`Awaited` lists the waits that handles and sets offer. Each of them polls one command, and what it
makes of a failure depends on the class of the failure only (`Awaited.judgesFailure`): a passing
failure and an absent object keep it polling, an unknown kind, a refusal and an unrecognised failure
are final. The wait for absence and the wait for an empty set take some of these for success.
`Awaited.run_failures` says what this comes to over all answers that a cluster gives to a wait.
-/

namespace Settle

/-- A wait on offer, with what it is told. A rollout can be awaited for a workload only. -/
inductive Awaited where
  | presence (h : Handle)
  | absence (h : Handle)
  | field (h : Handle) (p : Projection) (expected : FieldExpectation)
  | ready (h : Handle) (expected : Nat)
  | rollout (h : Handle) (workload : Workload)
      (known : Workload.ofKind? h.object.kind = some workload)
  | logLine (h : Handle) (regex : Regex) (container : Option String)
  | size (s : ResourceSet) (f : Filter) (expected : CountExpectation)
  | emptiness (s : ResourceSet) (f : Filter)
  | podsReady (s : ResourceSet) (f : Filter)

namespace Awaited

abbrev Value : Awaited → Type
  | presence _ | absence _ | emptiness _ _ => Unit
  | field _ _ _ | logLine _ _ _ => String
  | ready _ _ | rollout _ _ _ | size _ _ _ | podsReady _ _ => Nat

def client : Awaited → Client
  | presence h | absence h | field h _ _ | ready h _ | rollout h _ _ | logLine h _ _ => h.client
  | size s _ _ | emptiness s _ | podsReady s _ => s.client

def target : Awaited → String
  | presence h | absence h | field h _ _ | ready h _ | rollout h _ _ | logLine h _ _ =>
    h.object.target
  | size s _ _ | emptiness s _ | podsReady s _ => s.kind

def watch : (x : Awaited) → Watch x.Value
  | presence h => h.object.presence h.client
  | absence h => h.object.absence h.client
  | field h p expected => h.object.field h.client p expected
  | ready h expected => h.object.ready h.client expected
  | rollout h workload _ => h.object.rollout h.client workload
  | logLine h regex container => h.object.logLine h.client regex container
  | size s f expected => s.size f expected
  | emptiness s f => s.emptiness f
  | podsReady s f => s.podsReady f

def query (x : Awaited) : Invocation := x.watch.query

inductive Consequence where
  | keepsPolling
  | succeeds
  | fails

/-- What a class of failures means to most waits. -/
def Consequence.usual : FailureClass → Consequence
  | .transient | .notFound => .keepsPolling
  | .unknownKind | .rejected | .other => .fails

/-- What a class of failures means to a wait. An absent object is what the wait for absence waits
for, and objects of an unknown kind are absent. -/
def consequence : Awaited → FailureClass → Consequence
  | absence _, .notFound | absence _, .unknownKind | emptiness _ _, .unknownKind => .succeeds
  | _, kind => .usual kind

section Run

variable {σ : Type} [Cluster σ]

/-- Carries a wait out. -/
def run : (x : Awaited) → Policy → Action σ (Outcome x.Value)
  | presence h, policy => Prod.fst <$> h.awaitPresence policy
  | absence h, policy => Prod.fst <$> h.awaitAbsence policy
  | field h p expected, policy => h.awaitField p expected policy
  | ready h expected, policy => h.awaitReady expected policy
  | rollout h _ _, policy => h.awaitRollout policy
  | logLine h regex container, policy => h.awaitLogLine regex container policy
  | size s f expected, policy => s.awaitSize f expected policy
  | emptiness s f, policy => s.awaitEmptiness f policy
  | podsReady s f, policy => s.awaitPodsReady f policy

/-- All waits are the same loop on different watches. -/
theorem run_eq (x : Awaited) (policy : Policy) :
    x.run (σ := σ) policy = x.client.await x.watch policy := by
  cases x with
  | rollout h workload known =>
    show h.awaitRollout policy = _
    unfold Handle.awaitRollout
    rw [known]
    rfl
  | _ => rfl

end Run

/-! ## One failing command -/

theorem ofError_ofCommand {α : Type} (f : CommandFailure) (target : String) :
    (Verdict.ofError (.ofCommand f target) : Verdict α) =
      match Consequence.usual f.kind with
      | .keepsPolling => .notYet (Error.ofCommand f target).message
      | _ => .fatal (.ofCommand f target) := by
  unfold Verdict.ofError Error.ofCommand
  cases f.kind <;> rfl

/-- A wait makes of a failed command what its class means to it. -/
def JudgesFailure (x : Awaited) (f : CommandFailure) : Prop :=
  match x.consequence f.kind with
  | .keepsPolling => ∃ seen, x.watch.judge (.error f) = .notYet seen
  | .succeeds => ∃ v, x.watch.judge (.error f) = .converged v
  | .fails => x.watch.judge (.error f) = .fatal (.ofCommand f x.target)

theorem judgesFailure_of_ofError {x : Awaited} {f : CommandFailure}
    (usual : x.consequence f.kind = .usual f.kind)
    (judge : x.watch.judge (.error f) = .ofError (.ofCommand f x.target)) :
    x.JudgesFailure f := by
  unfold JudgesFailure
  rw [usual, judge, ofError_ofCommand]
  cases f.kind with
  | transient | notFound => exact ⟨_, rfl⟩
  | unknownKind | rejected | other => rfl

theorem judgesFailure (x : Awaited) (f : CommandFailure) : x.JudgesFailure f := by
  cases x with
  | presence h =>
    unfold JudgesFailure
    cases hk : f.kind <;>
      simp [consequence, Consequence.usual, watch, ObjectRef.presence, target, hk]
  | absence h =>
    unfold JudgesFailure
    cases hk : f.kind <;>
      simp [consequence, Consequence.usual, watch, ObjectRef.absence, target, hk]
  | emptiness s g =>
    have hn : s.namesIn (.error f) = .error (.ofCommand f s.kind) := rfl
    unfold JudgesFailure Error.ofCommand
    cases hk : f.kind <;>
      simp [consequence, Consequence.usual, watch, ResourceSet.emptiness, hk, hn, Error.ofCommand,
        Verdict.ofError, Error.isNotFound, Error.isTransient]
  | _ => exact judgesFailure_of_ofError rfl rfl

/-! ## Failing commands in a run -/

/-- An answer on which the wait does not keep polling. -/
def Decides (x : Awaited) (answer : Except CommandFailure String) : Prop :=
  (x.watch.judge answer).outcome? ≠ none

/-- What a failure at look `k` counts for in a wait that ends at look `n` with outcome `o`. Only on
the deadline does a wait end with a failure that keeps it polling. -/
def Counts (x : Awaited) (policy : Policy) (f : CommandFailure) (k n : Nat)
    (o : Outcome x.Value) : Prop :=
  match x.consequence f.kind with
  | .keepsPolling => k < n ∨ k = policy.pauses ∧ ∃ seen, o = .timedOut policy.timeout seen
  | .succeeds => k = n ∧ o.isSuccess = true
  | .fails => k = n ∧ o = .fatal (.ofCommand f x.target)

theorem counts_of_decided {x : Awaited} {policy : Policy} {f : CommandFailure} {n : Nat}
    {o : Outcome x.Value} (ho : (x.watch.judge (.error f)).outcome? = some o) :
    x.Counts policy f n n o := by
  have hj := x.judgesFailure f
  unfold JudgesFailure at hj
  unfold Counts
  cases hc : x.consequence f.kind with
  | keepsPolling =>
    rw [hc] at hj
    obtain ⟨seen, hj⟩ := hj
    rw [hj] at ho
    cases ho
  | succeeds =>
    rw [hc] at hj
    obtain ⟨v, hj⟩ := hj
    rw [hj] at ho
    cases ho
    exact ⟨rfl, rfl⟩
  | fails =>
    rw [hc] at hj
    rw [hj] at ho
    cases ho
    exact ⟨rfl, rfl⟩

theorem counts_of_undecided {x : Awaited} {policy : Policy} {f : CommandFailure} {k n : Nat}
    {o : Outcome x.Value} (hf : ¬ x.Decides (.error f))
    (polls : k < n ∨ k = policy.pauses ∧ ∃ seen, o = .timedOut policy.timeout seen) :
    x.Counts policy f k n o := by
  have hj := x.judgesFailure f
  unfold JudgesFailure at hj
  unfold Decides at hf
  unfold Counts
  cases hc : x.consequence f.kind with
  | keepsPolling => exact polls
  | succeeds =>
    rw [hc] at hj
    obtain ⟨v, hj⟩ := hj
    rw [hj] at hf
    exact absurd (Option.some_ne_none _) hf
  | fails =>
    rw [hc] at hj
    rw [hj] at hf
    exact absurd (Option.some_ne_none _) hf

section Answers

variable {σ : Type} [Cluster σ]

/-- A wait that is not cancelled issues one and the same command at every look, until a look decides
it or the deadline has come. A failure counts by its class. The outcome is that of the same wait
when the first answer that decides it comes first, whatever came before. -/
theorem run_failures (x : Awaited) (policy : Policy) (w : World σ)
    (uncancelled : x.client.Uncancelled x.query policy w) :
    ∃ n ≤ policy.pauses,
      (x.run policy w).2.log = List.replicate (n + 1) x.query ++ w.log ∧
      (x.run policy w).2.now = w.now + policy.lookAt n ∧
      (∀ k ≤ n, ∀ f, (w.replyAt x.query policy k).result = .error f →
        x.Counts policy f k n (x.run policy w).1) ∧
      ∀ k ≤ policy.pauses, x.Decides (w.replyAt x.query policy k).result →
        (∀ j < k, ¬ x.Decides (w.replyAt x.query policy j).result) →
        n = k ∧ ∀ {τ : Type} [Cluster τ] (policy' : Policy) (v : World τ),
          x.client.Uncancelled x.query policy' v →
          (v.replyAt x.query policy' 0).result = (w.replyAt x.query policy k).result →
          (x.run policy' v).1 = (x.run policy w).1 := by
  rcases forall_not_or_exists_first (P := fun k => x.Decides (w.replyAt x.query policy k).result)
    policy.pauses with none | ⟨n, hn, hd, first⟩
  · have all := fun j hj => Classical.not_not.mp (none j hj)
    obtain ⟨⟨seen, _, ho⟩, hl, ht⟩ := Client.await_of_no_verdict uncancelled all
    rw [← run_eq] at ho hl ht
    refine ⟨policy.pauses, Nat.le_refl _, hl, ht, fun k hk f hf => ?_, fun k hk hd => ?_⟩
    · refine counts_of_undecided (by rw [← hf]; exact none k hk) ?_
      rcases Nat.lt_or_eq_of_le hk with hk | hk
      · exact .inl hk
      · exact .inr ⟨hk, seen, ho⟩
    · exact absurd hd (none k hk)
  · obtain ⟨o, hv⟩ := Option.ne_none_iff_exists'.mp hd
    have before := fun j hj => Classical.not_not.mp (first j hj)
    obtain ⟨ho, hl, ht⟩ := Client.await_of_verdict uncancelled hn before hv
    rw [← run_eq] at ho hl ht
    refine ⟨n, hn, hl, ht, fun k hk f hf => ?_, fun k hk hd' first' => ?_⟩
    · rcases Nat.lt_or_eq_of_le hk with hk | rfl
      · exact counts_of_undecided (by rw [← hf]; exact first k hk) (.inl hk)
      · rw [hf] at hv
        rw [ho]
        exact counts_of_decided hv
    · obtain rfl : n = k := first_unique hd hd' first first'
      refine ⟨rfl, fun policy' v uncancelled' same => ?_⟩
      have hv' : (x.watch.judge (v.replyAt x.query policy' 0).result).outcome? = some o := by
        rw [same]; exact hv
      have ho' := (Client.await_of_verdict uncancelled' (Nat.zero_le _)
        (fun j hj => absurd hj (Nat.not_lt_zero j)) hv').1
      rw [run_eq x policy', ho', ho]

end Answers

/-- A passing failure, then an absent object: the wait for absence succeeds with its second look. -/
theorem run_failures_of_absence :
    let h : Handle := ⟨⟨.admin, true⟩, ⟨"pod", some "t1", "p1"⟩, .unknown⟩
    let w : World Rehearsal.Script :=
      { now := 0, cancelAt := none, log := [], files := .blank, names := .ofSeed 0 8
        cluster := ⟨[
          { left := some 1, reply := ⟨.error (.ofClass .transient "i/o timeout"), false⟩ },
          { reply := ⟨.error (.ofClass .notFound "gone"), false⟩ }]⟩ }
    (absence h).client.Uncancelled (absence h).query (.ofSecs 3 7) w ∧
      ((absence h).run (.ofSecs 3 7) w).1.isSuccess = true ∧
      ((absence h).run (.ofSecs 3 7) w).2.log = [(absence h).query, (absence h).query] := by
  intro h w
  have hp : (Policy.ofSecs 3 7).pauses = 3 := by decide
  have uncancelled : (absence h).client.Uncancelled (absence h).query (.ofSecs 3 7) w := by
    intro _
    refine ⟨rfl, fun k hk => ?_⟩
    rw [hp] at hk
    match k, hk with
    | 0, _ | 1, _ | 2, _ | 3, _ => rfl
  obtain ⟨n, _, hl, _, hf, hd⟩ := (absence h).run_failures (.ofSecs 3 7) w uncancelled
  have decided : (absence h).Decides (w.replyAt (absence h).query (.ofSecs 3 7) 1).result :=
    show some (Outcome.success ()) ≠ none from Option.some_ne_none _
  have undecided : ∀ j < 1,
      ¬ (absence h).Decides (w.replyAt (absence h).query (.ofSecs 3 7) j).result := by
    intro j hj hd
    obtain rfl : j = 0 := by omega
    exact hd rfl
  obtain ⟨rfl, _⟩ := hd 1 (by rw [hp]; decide) decided undecided
  obtain ⟨_, ho⟩ := hf 1 (Nat.le_refl 1) _ rfl
  exact ⟨uncancelled, ho, hl⟩

end Awaited

end Settle
