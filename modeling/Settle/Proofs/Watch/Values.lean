import Settle.Proofs.Text.Parts
import Settle.Proofs.Watch.Answers
import Settle.Proofs.Watch.Pods
import Settle.Proofs.Watch.Rollouts
import Settle.Proofs.Watch.Waits

/-!
# What waits wait for

`Awaited.Meets` says of every wait which outputs it waits for, and what it gives for one;
`Awaited.CannotRead` says which outputs it cannot read. Both speak of one output: of its lines, its
words, the counters it shows. A wait succeeds on the first answer that it waits for, unless a fatal
one comes before, and gives what that answer has (`Awaited.run_succeeds`).
-/

namespace Settle

namespace Awaited

/-! ## Requests -/

/-- The output has what the wait waits for, and this is what the wait gives for it. -/
def Meets : (x : Awaited) → String → x.Value → Prop
  | presence _, output, _ => output ≠ ""
  | absence _, _, _ => False
  | field _ p expected, output, v => p.extract output = .ok v ∧ expected.holds v = true
  | ready _ expected, output, n => readCounter output "readyReplicas" = .ok expected ∧ n = expected
  | rollout _ workload _, output, d =>
    ∃ document, Json.parse output = .ok document ∧ workload.Reports document ⟨d, d, d⟩
  | logLine _ regex _, output, line =>
    ∃ before after, Text.HasLines output.toList (before ++ line :: after) ∧
      (∀ other ∈ before, regex.accepts other = false) ∧ regex.accepts line = true
  | size _ _ expected, output, n =>
    ∃ names, Text.HasWords output.toList names ∧ names.length = n ∧ expected.holds n = true
  | emptiness _ _, output, _ => Text.HasWords output.toList []
  | podsReady _ _, output, n =>
    ∃ pods, Pods.Lists output pods ∧ pods.length = n ∧ 1 ≤ n ∧ ∀ pod ∈ pods, Pods.Ready pod

/-- The wait cannot read the output, for this reason. Those that take the output for plain text can
read every one. -/
def CannotRead : Awaited → String → Error → Prop
  | field _ p _, output, e =>
    ∃ path m, p = .pointer path ∧ Json.parse output = .error m ∧ e = .decode "JSON object" m
  | ready _ _, output, e => readCounter output "readyReplicas" = .error e
  | rollout h _ _, output, e => ∃ m, Json.parse output = .error m ∧ e = .decode h.object.target m
  | podsReady _ _, output, e => Pods.ofList output = .error e
  | presence _, _, _ | absence _, _, _ | logLine _ _ _, _, _ | size _ _ _, _, _
  | emptiness _ _, _, _ => False

/-- The answer has what the wait waits for. Some failures are just that to the waits for absence and
for an empty set. -/
def MetBy (x : Awaited) (v : x.Value) : Except CommandFailure String → Prop
  | .ok output => x.Meets output v
  | .error f => x.consequence f.kind = .succeeds

/-- The answer is fatal to the wait: an output that cannot be read, or a failure of such a class. -/
def SpoiltBy (x : Awaited) (e : Error) : Except CommandFailure String → Prop
  | .ok output => x.CannotRead output e
  | .error f => x.consequence f.kind = .fails ∧ e = .ofCommand f x.target

/-- The answer is neither what the wait waits for nor fatal to it. -/
structure LeftOpenBy (x : Awaited) (answer : Except CommandFailure String) : Prop where
  unmet : ∀ v, ¬ x.MetBy v answer
  unspoilt : ∀ e, ¬ x.SpoiltBy e answer

end Awaited

/-! ## Outputs that cannot be read -/

theorem Projection.extract_eq_error_iff {p : Projection} {output : String} {e : Error} :
    p.extract output = .error e ↔
      ∃ path m, p = .pointer path ∧ Json.parse output = .error m ∧ e = .decode "JSON object" m := by
  cases p with
  | name | jsonPath _ | raw => simp [extract]
  | pointer path =>
    simp only [extract, pointer.injEq, exists_and_left, exists_eq_left']
    cases Json.parse output <;> simp [eq_comm]

theorem Projection.extract_ofJsonPath (path output : String) :
    (ofJsonPath path).extract output = .ok output := by
  unfold ofJsonPath
  split <;> rfl

theorem readCounter_eq_error {value what : String} {e : Error}
    (h : readCounter value what = .error e) : ∃ m, e = .decode what m := by
  unfold readCounter at h
  dsimp only at h
  split at h
  · cases h
  · split at h
    · cases h
    · cases h
      exact ⟨_, rfl⟩

namespace Awaited

theorem CannotRead.decode {x : Awaited} {output : String} {e : Error} (h : x.CannotRead output e) :
    ∃ what m, e = .decode what m := by
  cases x with
  | field _ p _ =>
    obtain ⟨_, m, -, -, rfl⟩ := h
    exact ⟨_, m, rfl⟩
  | ready _ _ => exact ⟨_, readCounter_eq_error h⟩
  | rollout _ _ _ =>
    obtain ⟨m, -, rfl⟩ := h
    exact ⟨_, m, rfl⟩
  | podsReady _ _ => exact ⟨_, Pods.ofList_eq_error h⟩
  | presence _ | absence _ | logLine _ _ _ | size _ _ _ | emptiness _ _ => exact h.elim

/-- A wait makes of an output what the request says of it. -/
structure JudgesOutput (x : Awaited) (output : String) : Prop where
  converged_iff : ∀ v, x.watch.judge (.ok output) = .converged v ↔ x.Meets output v
  fatal_iff : ∀ e, x.watch.judge (.ok output) = .fatal e ↔ x.CannotRead output e

theorem judgesOutput_of_read {x : Awaited} {output : String} {c : Prop} [Decidable c] {a : x.Value}
    {seen : String}
    (judge : x.watch.judge (.ok output) = if c then .converged a else .notYet seen)
    (meets : ∀ v, x.Meets output v ↔ c ∧ a = v) (clear : ∀ e, ¬ x.CannotRead output e) :
    x.JudgesOutput output := by
  constructor
  · intro v
    rw [judge, meets]
    split_ifs with h <;> simp [h]
  · intro e
    rw [judge, iff_false_intro (clear e)]
    split_ifs <;> simp

theorem judgesOutput_of_garbled {x : Awaited} {output : String} {e : Error}
    (judge : x.watch.judge (.ok output) = .fatal e) (misses : ∀ v, ¬ x.Meets output v)
    (reason : ∀ e', x.CannotRead output e' ↔ e = e') : x.JudgesOutput output := by
  constructor
  · intro v
    rw [judge, iff_false_intro (misses v)]
    exact iff_of_false nofun id
  · intro e'
    rw [judge, reason, Verdict.fatal.injEq]

theorem judgesOutput_presence (h : Handle) (output : String) :
    (presence h).JudgesOutput output := by
  have judge : (presence h).watch.judge (.ok output) =
      if output ≠ "" then .converged () else .notYet "get returned no object" := by
    simp only [watch, ObjectRef.presence, String.isEmpty_iff, ne_eq, ite_not]
  exact judgesOutput_of_read judge (fun _ => (and_iff_left rfl).symm) fun _ => id

theorem judgesOutput_field (h : Handle) (p : Projection) (expected : FieldExpectation)
    (output : String) : (field h p expected).JudgesOutput output := by
  have projected : h.object.projected p (.ok output) = p.extract output := rfl
  cases read : p.extract output with
  | error e =>
    have judge : (field h p expected).watch.judge (.ok output) = .fatal e := by
      obtain ⟨_, m, -, -, rfl⟩ := Projection.extract_eq_error_iff.mp read
      simp only [watch, ObjectRef.field, projected, read]
      rfl
    refine judgesOutput_of_garbled judge (fun v => ?_) fun e' => ?_
    · rintro ⟨extracted, -⟩
      rw [read] at extracted
      cases extracted
    · rw [CannotRead, ← Projection.extract_eq_error_iff, read, Except.error.injEq]
  | ok value =>
    have judge : (field h p expected).watch.judge (.ok output) =
        if expected.holds value then .converged value
        else .notYet (p.text ++ " is " ++ Text.quote value) := by
      simp only [watch, ObjectRef.field, projected, read]
    refine judgesOutput_of_read judge (fun v => ?_) fun e => ?_
    · rw [Meets, read, Except.ok.injEq]
      constructor
      · rintro ⟨rfl, holds⟩
        exact ⟨holds, rfl⟩
      · rintro ⟨holds, rfl⟩
        exact ⟨rfl, holds⟩
    · rw [CannotRead, ← Projection.extract_eq_error_iff, read]
      simp

theorem judgesOutput_ready (h : Handle) (expected : Nat) (output : String) :
    (ready h expected).JudgesOutput output := by
  have projected : h.object.projected ObjectRef.readyReplicas (.ok output) = .ok output :=
    Projection.extract_ofJsonPath ".status.readyReplicas" output
  cases read : readCounter output "readyReplicas" with
  | error e =>
    have judge : (ready h expected).watch.judge (.ok output) = .fatal e := by
      simp only [watch, ObjectRef.ready, projected, read]
    refine judgesOutput_of_garbled judge (fun v => ?_) fun e' => ?_
    · rintro ⟨counted, -⟩
      rw [read] at counted
      cases counted
    · rw [CannotRead, read, Except.error.injEq]
  | ok n =>
    have judge : (ready h expected).watch.judge (.ok output) =
        if n = expected then .converged n
        else .notYet (toString n ++ "/" ++ toString expected ++ " replicas ready") := by
      simp only [watch, ObjectRef.ready, projected, read]
    refine judgesOutput_of_read judge (fun v => ?_) fun e => ?_
    · rw [Meets, read, Except.ok.injEq]
      constructor
      · rintro ⟨reached, given⟩
        exact ⟨reached, reached.trans given.symm⟩
      · rintro ⟨reached, given⟩
        exact ⟨reached, given.symm.trans reached⟩
    · rw [CannotRead, read]
      simp

theorem judgesOutput_rollout (h : Handle) (workload : Workload)
    (known : Workload.ofKind? h.object.kind = some workload) (output : String) :
    (rollout h workload known).JudgesOutput output := by
  cases parsed : Json.parse output with
  | error m =>
    refine judgesOutput_of_garbled (h.object.judge_rollout_of_garbled h.client parsed)
      (fun v => ?_) fun e' => ?_
    · rintro ⟨document, read, -⟩
      rw [parsed] at read
      cases read
    · rw [CannotRead, parsed]
      simp [eq_comm]
  | ok document =>
    refine judgesOutput_of_read (h.object.judge_rollout_of_document h.client parsed
      (Workload.reports_iff.mpr rfl)) (fun v => ?_) fun e => ?_
    · simp only [Meets, parsed, Except.ok.injEq, exists_eq_left', Workload.reports_iff,
        Rollout.isComplete_iff]
      constructor
      · intro shown
        rw [shown]
        exact ⟨⟨_, rfl⟩, rfl⟩
      · rintro ⟨⟨d, shown⟩, rfl⟩
        rw [shown]
    · rw [CannotRead, parsed]
      rintro ⟨_, ⟨⟩, -⟩

theorem meets_logLine_iff {h : Handle} {regex : Regex} {container : Option String}
    {output line : String} : (logLine h regex container).Meets output line ↔
      (Text.lines output).find? regex.accepts = some line := by
  simp only [Meets, Text.hasLines_iff, List.find?_eq_some_iff_append, Bool.not_eq_true']
  constructor
  · rintro ⟨before, after, lines, others, accepted⟩
    exact ⟨accepted, before, after, lines.symm, others⟩
  · rintro ⟨accepted, before, after, lines, others⟩
    exact ⟨before, after, lines.symm, others, accepted⟩

theorem judgesOutput_logLine (h : Handle) (regex : Regex) (container : Option String)
    (output : String) : (logLine h regex container).JudgesOutput output := by
  have answered : ObjectRef.answer h.object.target (.ok output) = .ok output := rfl
  cases found : (Text.lines output).find? regex.accepts with
  | none =>
    have judge : (logLine h regex container).watch.judge (.ok output) =
        .notYet (toString (Text.lines output).length ++ " log lines, none match") := by
      simp only [watch, ObjectRef.logLine, answered, found]
    constructor
    · intro line
      rw [judge, meets_logLine_iff, found]
      simp
    · intro e
      rw [judge, CannotRead]
      simp
  | some line =>
    have judge : (logLine h regex container).watch.judge (.ok output) = .converged line := by
      simp only [watch, ObjectRef.logLine, answered, found]
    constructor
    · intro line'
      rw [judge, meets_logLine_iff, found, Verdict.converged.injEq, Option.some.injEq]
    · intro e
      rw [judge, CannotRead]
      simp

theorem judgesOutput_size (s : ResourceSet) (f : Filter) (expected : CountExpectation)
    (output : String) : (size s f expected).JudgesOutput output := by
  have judge : (size s f expected).watch.judge (.ok output) =
      if expected.holds (Text.words output).length then .converged (Text.words output).length
      else .notYet (toString (Text.words output).length ++ " found") := rfl
  refine judgesOutput_of_read judge (fun v => ?_) fun _ => id
  simp only [Meets, Text.hasWords_iff, exists_eq_left]
  constructor
  · rintro ⟨rfl, holds⟩
    exact ⟨holds, rfl⟩
  · rintro ⟨holds, rfl⟩
    exact ⟨rfl, holds⟩

theorem judgesOutput_emptiness (s : ResourceSet) (f : Filter) (output : String) :
    (emptiness s f).JudgesOutput output := by
  have judge : (emptiness s f).watch.judge (.ok output) =
      if (Text.words output).isEmpty then .converged ()
      else .notYet ("remaining: " ++ " ".intercalate (Text.words output)) := rfl
  refine judgesOutput_of_read judge (fun v => ?_) fun _ => id
  rw [Meets, Text.hasWords_iff, List.isEmpty_iff, eq_comm]
  exact (and_iff_left rfl).symm

theorem judgesOutput_podsReady (s : ResourceSet) (f : Filter) (output : String) :
    (podsReady s f).JudgesOutput output := by
  constructor
  · intro n
    simp only [Meets, ← ResourceSet.judgePods_eq_converged_iff]
    exact s.judge_podsReady_eq_iff f (v := .converged n) fun _ => nofun
  · intro e
    have answered : ObjectRef.answer s.kind (.ok output) = .ok output := rfl
    cases read : Pods.ofList output with
    | error e' =>
      simp only [watch, ResourceSet.podsReady, answered, CannotRead, read, Verdict.fatal.injEq,
        Except.error.injEq]
    | ok pods =>
      rw [CannotRead, read]
      have listed : (podsReady s f).watch.judge (.ok output) = ResourceSet.judgePods pods :=
        s.judge_podsReady_of_list f (Pods.ofList_eq_ok_iff.mp read)
      simp [listed, ResourceSet.judgePods_ne_fatal]

theorem judgesOutput (x : Awaited) (output : String) : x.JudgesOutput output := by
  cases x with
  | presence h => exact judgesOutput_presence h output
  | absence h => exact ⟨fun _ => ⟨nofun, nofun⟩, fun _ => ⟨nofun, nofun⟩⟩
  | field h p expected => exact judgesOutput_field h p expected output
  | ready h expected => exact judgesOutput_ready h expected output
  | rollout h workload known => exact judgesOutput_rollout h workload known output
  | logLine h regex container => exact judgesOutput_logLine h regex container output
  | size s f expected => exact judgesOutput_size s f expected output
  | emptiness s f => exact judgesOutput_emptiness s f output
  | podsReady s f => exact judgesOutput_podsReady s f output

/-! ## The verdict on an answer -/

/-- To the waits that a failure can satisfy all values are the same. -/
theorem value_eq_of_succeeds {x : Awaited} {kind : FailureClass}
    (h : x.consequence kind = .succeeds) (v v' : x.Value) : v = v' := by
  cases x with
  | absence _ | emptiness _ _ => rfl
  | _ => cases kind <;> cases h

theorem judge_error_iff (x : Awaited) (f : CommandFailure) :
    (∀ v, x.watch.judge (.error f) = .converged v ↔ x.consequence f.kind = .succeeds) ∧
      ∀ e, x.watch.judge (.error f) = .fatal e ↔
        x.consequence f.kind = .fails ∧ e = .ofCommand f x.target := by
  have judged := x.judgesFailure f
  unfold JudgesFailure at judged
  cases hc : x.consequence f.kind with
  | keepsPolling =>
    rw [hc] at judged
    obtain ⟨seen, judged⟩ := judged
    simp [judged]
  | succeeds =>
    rw [hc] at judged
    obtain ⟨v', judged⟩ := judged
    simpa [judged] using value_eq_of_succeeds hc v'
  | fails =>
    rw [hc] at judged
    simp [judged, eq_comm]

theorem judge_eq_converged_iff {x : Awaited} {answer : Except CommandFailure String} {v : x.Value} :
    x.watch.judge answer = .converged v ↔ x.MetBy v answer := by
  cases answer with
  | ok output => exact (x.judgesOutput output).converged_iff v
  | error f => exact (x.judge_error_iff f).1 v

theorem judge_eq_fatal_iff {x : Awaited} {answer : Except CommandFailure String} {e : Error} :
    x.watch.judge answer = .fatal e ↔ x.SpoiltBy e answer := by
  cases answer with
  | ok output => exact (x.judgesOutput output).fatal_iff e
  | error f => exact (x.judge_error_iff f).2 e

theorem MetBy.unique {x : Awaited} {answer : Except CommandFailure String} {v v' : x.Value}
    (h : x.MetBy v answer) (h' : x.MetBy v' answer) : v = v' := by
  rw [← judge_eq_converged_iff] at h h'
  exact Verdict.converged.inj (h.symm.trans h')

theorem leftOpenBy_iff {x : Awaited} {answer : Except CommandFailure String} :
    x.LeftOpenBy answer ↔ (x.watch.judge answer).outcome? = none := by
  constructor
  · rintro ⟨unmet, unspoilt⟩
    cases verdict : x.watch.judge answer with
    | converged v => exact absurd (judge_eq_converged_iff.mp verdict) (unmet v)
    | notYet seen => rfl
    | fatal e => exact absurd (judge_eq_fatal_iff.mp verdict) (unspoilt e)
  · intro undecided
    obtain ⟨seen, verdict⟩ := Verdict.outcome?_eq_none.mp undecided
    constructor
    · intro v met
      rw [← judge_eq_converged_iff, verdict] at met
      cases met
    · intro e spoilt
      rw [← judge_eq_fatal_iff, verdict] at spoilt
      cases spoilt

/-! ## The wait -/

/-- A wait succeeds just when an answer within its timetable has what it waits for and none before
is fatal. The first answer that does not leave the wait open ends it: with the one value that this
answer has, or with the error, which is one of decoding when the answer is an output that cannot be
read. -/
theorem run_succeeds {σ : Type} [Cluster σ] (x : Awaited) (policy : Policy) (w : World σ)
    (uncancelled : x.client.Uncancelled x.query policy w) :
    let answer (k : Nat) := (w.replyAt x.query policy k).result
    ((x.run policy w).1.isSuccess = true ↔
      ∃ k ≤ policy.pauses, (∃ v, x.MetBy v (answer k)) ∧ ∀ j < k, ∀ e, ¬ x.SpoiltBy e (answer j)) ∧
    (∀ k ≤ policy.pauses, (∀ j < k, x.LeftOpenBy (answer j)) →
      (∀ v, x.MetBy v (answer k) →
        (∀ v', x.MetBy v' (answer k) → v' = v) ∧
        w.EndsWith x.query policy k (.success v) (x.run policy w)) ∧
      ∀ e, x.SpoiltBy e (answer k) →
        w.EndsWith x.query policy k (.fatal e) (x.run policy w)) ∧
    ∀ output e, x.CannotRead output e → ∃ what m, e = .decode what m := by
  intro answer
  rw [run_eq]
  refine ⟨?_, fun k hk before => ?_, fun output e => CannotRead.decode⟩
  · rw [Client.isSuccess_await_iff uncancelled]
    simp only [judge_eq_converged_iff, ne_eq, judge_eq_fatal_iff]
    rfl
  · have undecided (j : Nat) (hj : j < k) := leftOpenBy_iff.mp (before j hj)
    refine ⟨fun v met => ⟨fun v' met' => met'.unique met, ?_⟩, fun e spoilt => ?_⟩
    · exact Client.await_endsWith uncancelled hk undecided
        (Verdict.outcome?_eq_success.mpr (judge_eq_converged_iff.mpr met))
    · exact Client.await_endsWith uncancelled hk undecided
        (Verdict.outcome?_eq_fatal.mpr (judge_eq_fatal_iff.mpr spoilt))

/-- A passing failure, then logs without the line that is waited for, then logs with two such lines:
the wait gives the first of them, without its line end. -/
theorem run_succeeds_with_first_line :
    let regex : Regex := ⟨"up", fun line => Text.contains line "up"⟩
    let h : Handle := ⟨⟨.admin, true⟩, ⟨"pod", some "t1", "p1"⟩, .unknown⟩
    let x : Awaited := logLine h regex none
    let w : World Rehearsal.Script :=
      { now := 0, cancelAt := none, log := [], files := .blank, names := .ofSeed 0 8
        cluster := ⟨[
          { left := some 1, reply := ⟨.error (.ofClass .transient "i/o timeout"), false⟩ },
          { left := some 1, reply := ⟨.ok "boot\n", false⟩ },
          { reply := ⟨.ok "boot\nup 1\r\nup 2", false⟩ }]⟩ }
    x.client.Uncancelled x.query (.ofSecs 3 7) w ∧
      w.EndsWith x.query (.ofSecs 3 7) 2 (.success "up 1") (x.run (.ofSecs 3 7) w) := by
  intro regex h x w
  have calm : w.cluster.Calm := by decide
  have uncancelled := calm.uncancelled rfl x.client x.query (.ofSecs 3 7)
  have before : ∀ j < 2, x.LeftOpenBy (w.replyAt x.query (.ofSecs 3 7) j).result := by
    intro j hj
    match j, hj with
    | 0, _ | 1, _ => exact leftOpenBy_iff.mpr (by decide)
  have lines : Text.HasLines "boot\nup 1\r\nup 2".toList (["boot"] ++ "up 1" :: ["up 2"]) :=
    Text.hasLines_iff.mpr (by decide)
  have met : x.MetBy "up 1" (w.replyAt x.query (.ofSecs 3 7) 2).result :=
    ⟨["boot"], ["up 2"], lines, by decide, by decide⟩
  obtain ⟨-, ends, -⟩ := x.run_succeeds (.ofSecs 3 7) w uncancelled
  exact ⟨uncancelled, ((ends 2 (by decide) before).1 "up 1" met).2⟩

end Awaited

end Settle
