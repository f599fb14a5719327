import Settle.Proofs.Session.Commands
import Settle.Proofs.Wait.Cancellation
import Settle.Proofs.Wait.Tape

/-!
# Cancelled sessions

A client that heeds the cancellation does nothing more once it has fired: no wait and no submission
of a template that begins then issues a command, creates a file or lets time pass.
`Call.heeds_cancellation` says this together with what a cancellation makes of a wait or a
submission that has begun.
-/

namespace Settle

variable {σ α δ : Type}

section Cancelled

variable {w : World σ}

theorem Client.mustStop_pace {c : Client} (heeds : c.cancellable = true)
    (cancelled : w.isCancelled = true) (policy : Policy) : (c.pace policy).mustStop w = true := by
  simp [pace, Pace.mustStop, heeds, cancelled]

variable [Cluster σ]

theorem Client.await_of_cancelled {c : Client} (heeds : c.cancellable = true)
    (cancelled : w.isCancelled = true) (x : Watch α) (policy : Policy) :
    c.await x policy w = (.fatal (.cancelled x.goal), w) :=
  Pace.await_of_mustStop (mustStop_pace heeds cancelled policy) x.goal x.look

theorem Client.submitTemplate_of_cancelled {c : Client} (heeds : c.cancellable = true)
    (cancelled : w.isCancelled = true) (verb : Verb) (e : Engine) (t : Template) (retry : Policy) :
    c.submitTemplate verb e t retry w = (.error (.cancelled "submission"), w) :=
  Pace.submit_of_mustStop (mustStop_pace heeds cancelled retry) (e.expand t) _

theorem Handle.Operation.run_of_cancelled {op : Operation} (paced : op.isPaced = true) {h : Handle}
    (heeds : h.client.cancellable = true) (cancelled : w.isCancelled = true) :
    (op.run h w).2 = w := by
  have await {α : Type} (x : Watch α) (policy : Policy) : (h.client.await x policy w).2 = w := by
    rw [Client.await_of_cancelled heeds cancelled]
  have submit (e : Engine) (t : Template) (retry : Policy) :
      h.client.applyTemplate e t retry w = (.error (.cancelled "submission"), w) :=
    Client.submitTemplate_of_cancelled heeds cancelled .apply e t retry
  cases op with
  | awaitPresence policy => exact await _ policy
  | awaitAbsence policy => exact await _ policy
  | awaitField p expected policy => exact await _ policy
  | awaitReady expected policy => exact await _ policy
  | awaitLogLine regex container policy => exact await _ policy
  | awaitRollout policy =>
    show (h.awaitRollout policy w).2 = w
    unfold Handle.awaitRollout
    cases Workload.ofKind? h.object.kind with
    | some workload => exact await _ policy
    | none => rfl
  | applyTemplate e t retry => rw [Operation.run, applyTemplate_world, submit]
  | applyTemplateAndAwait e t retry presence =>
    simp only [Operation.run, Handle.applyTemplateAndAwait, Handle.applyTemplate,
      Action.bind_apply, submit, Action.pure_apply]
  | isPresent | delete | clear _ | read _ | logs _ | patch _ _ | scale _ => cases paced

theorem Call.run_of_cancelled {x : Call} (paced : x.isPaced = true)
    (heeds : x.caller.cancellable = true) (cancelled : w.isCancelled = true) :
    (x.run w).2 = w := by
  cases x with
  | handle h op => exact Handle.Operation.run_of_cancelled paced heeds cancelled
  | client c op =>
    change c.cancellable = true at heeds
    have submit (verb : Verb) (e : Engine) (t : Template) (retry : Policy) :
        (c.submitTemplate verb e t retry w).2 = w := by
      rw [Client.submitTemplate_of_cancelled heeds cancelled]
    cases op with
    | applyTemplate e t retry => exact submit .apply e t retry
    | createFromTemplate e t retry => exact submit .create e t retry
    | command _ _ _ | applyManifest _ => cases paced
  | set s op =>
    change s.client.cancellable = true at heeds
    have await {α : Type} (x : Watch α) (policy : Policy) : (s.client.await x policy w).2 = w := by
      rw [Client.await_of_cancelled heeds cancelled]
    cases op with
    | awaitSize f expected policy => exact await _ policy
    | awaitEmptiness f policy => exact await _ policy
    | awaitPodsReady f policy => exact await _ policy
    | names _ | list _ | count _ => cases paced

end Cancelled

/-- A cancellation `c` after the start of a wait or of a submission, and not on the instant of one
of its attempts. It comes too late when the run has ended by then; otherwise the run ends with it,
after the attempts before it, and the submission applies nothing. Once the cancellation has fired,
nothing is attempted at all. -/
theorem Call.heeds_cancellation (policy : Policy) :
    (∀ (w : World σ) (c : Duration), w.cancelAt = some (w.now + c) →
      (∀ k, c ≠ policy.lookAt k) →
      (∀ {α : Type} (what : String) (look : Action σ (Verdict α)), look.Instant →
        ∃ j, policy.EndsAt look (·.outcome?.isNone) w j ∧
          policy.CutAt look w c j (.fatal (.cancelled what))
            ((Pace.mk policy true).await what look w)
            ((Pace.mk policy false).await what look w)) ∧
      ∀ {δ α : Type} (make : Action σ (Except Error δ)) (apply : δ → Action σ (Except Error α)),
        make.Instant →
        ∃ j, policy.EndsAt make isPassing w j ∧
          policy.CutAt make w c j (.error (.cancelled "submission"))
            ((Pace.mk policy true).submit make apply w)
            ((Pace.mk policy false).submit make apply w)) ∧
    ∀ {τ : Type} [Cluster τ] (v : World τ), v.isCancelled = true →
      (∀ {α : Type} (what : String) (look : Action τ (Verdict α)),
        (Pace.mk policy true).await what look v = (.fatal (.cancelled what), v)) ∧
      (∀ {δ α : Type} (make : Action τ (Except Error δ)) (apply : δ → Action τ (Except Error α)),
        (Pace.mk policy true).submit make apply v = (.error (.cancelled "submission"), v)) ∧
      ∀ x : Call, x.isPaced = true → x.caller.cancellable = true → (x.run v).2 = v := by
  refine ⟨fun w c fires between => ⟨fun what look instant => ?_, fun make apply instant => ?_⟩,
    fun v cancelled => ?_⟩
  · obtain ⟨j, ends⟩ := policy.exists_endsAt look (·.outcome?.isNone) w
    exact ⟨j, ends, Pace.await_cutAt what instant fires between ends⟩
  · obtain ⟨j, ends⟩ := policy.exists_endsAt make isPassing w
    exact ⟨j, ends, Pace.submit_cutAt apply instant fires between ends⟩
  · have stop : (Pace.mk policy true).mustStop v = true := cancelled
    exact ⟨Pace.await_of_mustStop stop, Pace.submit_of_mustStop stop,
      fun x paced heeds => Call.run_of_cancelled paced heeds cancelled⟩

/-- Looks every three seconds for seven seconds; the one after six seconds would converge. A
cancellation after four seconds stops the wait on that instant, after two looks, and it stops a
submission that is still without a document; one after six and a half seconds comes too late. Once
it has fired, a wait for a pod issues no command. -/
theorem Call.heeds_cancellation_of_looks :
    let policy : Policy := .ofSecs 3 7
    let w (c : Duration) : World (Tape Nat) :=
      { now := 5, cancelAt := some (5 + c), log := [], files := .blank, names := .ofSeed 0 8
        cluster := ⟨fun k => if k = 2 then .converged 42 else .notYet "absent", []⟩ }
    let run (heeds : Bool) (c : Duration) := (Pace.mk policy heeds).await "presence" Tape.look (w c)
    let make : Action (Tape Nat) (Except Error Nat) := fun w => (.error (.transient "refused"), w)
    let apply (n : Nat) : Action (Tape Nat) (Except Error Nat) := pure (.ok n)
    let h : Handle := ⟨⟨.admin, true⟩, ⟨"pod", some "t1", "p1"⟩, .unknown⟩
    let v : World Rehearsal.Script :=
      { now := 5, cancelAt := some 5, log := [], files := .blank, names := .ofSeed 0 8
        cluster := .always "pod/p1" }
    (∀ k, 4000000000 ≠ policy.lookAt k) ∧ (∀ k, 6500000000 ≠ policy.lookAt k) ∧
      (run true 4000000000).1 = .fatal (.cancelled "presence") ∧
      (run true 4000000000).2.now = 4000000005 ∧
      (run true 4000000000).2.cluster.looks = [3000000005, 5] ∧
      run true 6500000000 = run false 6500000000 ∧
      ((Pace.mk policy true).submit make apply (w 4000000000)).1 =
        .error (.cancelled "submission") ∧
      ((Call.handle h (.awaitPresence policy)).run v).2.log = [] := by
  intro policy w run make apply h v
  obtain ⟨cuts, ceases⟩ := Call.heeds_cancellation (σ := Tape Nat) policy
  have instant : (Tape.look (α := Nat)).Instant := ⟨fun _ => rfl, fun _ => rfl⟩
  have early : ∀ k, 4000000000 ≠ policy.lookAt k :=
    Policy.ne_lookAt_of_between (n := 1) (by decide) (by decide)
  have late : ∀ k, 6500000000 ≠ policy.lookAt k :=
    Policy.ne_lookAt_of_between (n := 2) (by decide) (by decide)
  obtain ⟨waits, submissions⟩ := cuts (w 4000000000) 4000000000 rfl early
  have ends (c : Duration) : policy.EndsAt Tape.look (·.outcome?.isNone) (w c) 2 := by
    have verdict (k : Nat) : (Tape.look (policy.worldAt Tape.look (w c) k)).1 =
        if k = 2 then .converged 42 else .notYet "absent" := Tape.verdict_at policy (w c) k
    refine ⟨by decide, fun i hi => ?_, .inl ?_⟩
    · rw [verdict, if_neg (Nat.ne_of_lt hi)]
      rfl
    · rw [verdict, if_pos rfl]
      rfl
  obtain ⟨j, ended, _, cut⟩ := waits "presence" Tape.look instant
  obtain rfl := ended.unique (ends _)
  obtain ⟨n, hn, _, before, stopped⟩ := cut (by decide)
  obtain rfl : n = 1 := by
    have first : n ≠ 0 := by
      rintro rfl
      exact absurd before (by decide)
    omega
  have start : (w 4000000000).now = 5 := rfl
  have unseen : (w 4000000000).cluster.looks = [] := rfl
  have looks := Tape.looks_after policy (w 4000000000) 1
  have instants : Tape.instants policy 5 2 = [3000000005, 5] := by decide
  rw [start, instants, unseen, List.append_nil] at looks
  rw [start] at stopped
  generalize (Tape.look (policy.worldAt Tape.look (w 4000000000) 1)).2 = u at stopped looks
  have outcome : (run true 4000000000).1 = .fatal (.cancelled "presence") :=
    congrArg Prod.fst stopped
  have world : (run true 4000000000).2 = { u with now := 4000000005 } := congrArg Prod.snd stopped
  have kept (t : Duration) : ({ u with now := t } : World (Tape Nat)).cluster = u.cluster := rfl
  refine ⟨early, late, outcome, congrArg World.now world, ?_, ?_, ?_, ?_⟩
  · rw [world, kept, looks]
  · obtain ⟨j, ended, same, _⟩ :=
      (cuts (w 6500000000) 6500000000 rfl late).1 "presence" Tape.look instant
    obtain rfl := ended.unique (ends _)
    exact same (by decide)
  · obtain ⟨j, ended, _, cut⟩ := submissions make apply ⟨fun _ => rfl, fun _ => rfl⟩
    obtain rfl := ended.unique (k := policy.pauses) ⟨Nat.le_refl _, fun _ _ => rfl, .inr rfl⟩
    obtain ⟨_, _, _, _, stopped⟩ := cut (by decide)
    exact congrArg Prod.fst stopped
  · obtain ⟨_, _, calls⟩ := ceases v rfl
    exact congrArg World.log (calls (.handle h (.awaitPresence policy)) rfl rfl)

end Settle
