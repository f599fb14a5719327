import Settle.Proofs.Json.Kinds
import Settle.Proofs.Watch.Answers
import Settle.Rehearsal.Cluster
import Settle.ResourceSet

/-!
# Pods that are ready

What makes a pod ready, what makes an output a list of pods, and which names are told of pods that
are not ready, each said of JSON values as they come: of any value, of any shape. The wait for pods
reads its answers that way (`ResourceSet.judges_pods`), so it never succeeds on a list with an
unready pod, whatever the script.
-/

namespace Settle

open Json (Value)

namespace Pods

/-- The pod reports its containers, at least one, and that each of them is ready. -/
def Ready (pod : Value) : Prop :=
  ∃ statuses, pod.pointer? "/status/containerStatuses" = some (.array statuses) ∧ statuses ≠ [] ∧
    ∀ status ∈ statuses, status.member? "ready" = some (.bool true)

def Lists (output : String) (pods : List Value) : Prop :=
  ∃ document, Json.parse output = .ok document ∧ document.member? "items" = some (.array pods)

/-- The pod goes by this name. A pod without a name that is a text goes by the empty one. -/
inductive GoesBy (pod : Value) : String → Prop where
  | named {name : String} : pod.pointer? "/metadata/name" = some (.string name) → GoesBy pod name
  | nameless : (∀ name, pod.pointer? "/metadata/name" ≠ some (.string name)) → GoesBy pod ""

/-- The names of those of the pods that are not ready, in the order of the pods. -/
inductive UnreadyNames : List Value → List String → Prop where
  | nil : UnreadyNames [] []
  | ready {pod : Value} {pods : List Value} {names : List String} : Ready pod →
    UnreadyNames pods names → UnreadyNames (pod :: pods) names
  | unready {pod : Value} {pods : List Value} {name : String} {names : List String} : ¬ Ready pod →
    GoesBy pod name → UnreadyNames pods names → UnreadyNames (pod :: pods) (name :: names)

/-! ## One pod -/

theorem containerReady_iff {status : Value} :
    containerReady status = true ↔ status.member? "ready" = some (.bool true) := by
  rw [containerReady, beq_iff_eq, Value.bind_asBool?_eq_some_iff]

theorem containers_of_array {pod : Value} {statuses : List Value}
    (h : pod.pointer? "/status/containerStatuses" = some (.array statuses)) :
    containers pod = statuses := by
  rw [containers, Value.bind_asArray?_eq_some_iff.mpr h, Option.getD_some]

theorem array_of_containers {pod : Value} (h : containers pod ≠ []) :
    pod.pointer? "/status/containerStatuses" = some (.array (containers pod)) := by
  cases hs : (pod.pointer? "/status/containerStatuses").bind Value.asArray? with
  | none =>
    rw [containers, hs] at h
    exact absurd rfl h
  | some statuses =>
    have array := Value.bind_asArray?_eq_some_iff.mp hs
    rw [containers_of_array array]
    exact array

theorem isReady_iff {pod : Value} : isReady pod = true ↔ Ready pod := by
  rw [isReady, Bool.and_eq_true, Bool.not_eq_true', List.isEmpty_eq_false_iff, List.all_eq_true]
  simp only [containerReady_iff]
  constructor
  · rintro ⟨some_container, all_ready⟩
    exact ⟨containers pod, array_of_containers some_container, some_container, all_ready⟩
  · rintro ⟨statuses, array, some_status, all_ready⟩
    rw [containers_of_array array]
    exact ⟨some_status, all_ready⟩

theorem goesBy_iff {pod : Value} {s : String} : GoesBy pod s ↔ s = name pod := by
  unfold name
  cases hs : (pod.pointer? "/metadata/name").bind Value.asString? with
  | none =>
    have nameless (s : String) : pod.pointer? "/metadata/name" ≠ some (.string s) := by
      intro named
      rw [Value.bind_asString?_eq_some_iff.mpr named] at hs
      cases hs
    constructor
    · rintro (named | -)
      · exact absurd named (nameless s)
      · rfl
    · rintro rfl
      exact .nameless nameless
  | some s' =>
    have named := Value.bind_asString?_eq_some_iff.mp hs
    constructor
    · rintro (named' | nameless)
      · rw [named] at named'
        cases named'
        rfl
      · exact absurd named (nameless s')
    · rintro rfl
      exact .named named

/-! ## Lists of pods -/

theorem unready_cons (pod : Value) (pods : List Value) :
    unready (pod :: pods) = if isReady pod then unready pods else name pod :: unready pods := by
  cases h : isReady pod <;> simp [unready, h]

theorem unready_eq_nil_iff {pods : List Value} : unready pods = [] ↔ ∀ pod ∈ pods, Ready pod := by
  simp [unready, isReady_iff]

theorem unreadyNames_unready (pods : List Value) : UnreadyNames pods (unready pods) := by
  induction pods with
  | nil => exact .nil
  | cons pod pods ih =>
    rw [unready_cons]
    by_cases h : isReady pod = true
    · rw [if_pos h]
      exact .ready (isReady_iff.mp h) ih
    · rw [if_neg h]
      exact .unready (fun ready => h (isReady_iff.mpr ready)) (goesBy_iff.mpr rfl) ih

theorem unreadyNames_iff {pods : List Value} {names : List String} :
    UnreadyNames pods names ↔ names = unready pods := by
  constructor
  · intro h
    induction h with
    | nil => rfl
    | ready ready _ ih => rw [unready_cons, if_pos (isReady_iff.mpr ready), ih]
    | unready unready called _ ih =>
      rw [unready_cons, if_neg fun h => unready (isReady_iff.mp h), ih, goesBy_iff.mp called]
  · rintro rfl
    exact unreadyNames_unready pods

theorem ofList_eq_ok_iff {output : String} {pods : List Value} :
    ofList output = .ok pods ↔ Lists output pods := by
  unfold ofList Lists
  cases Json.parse output with
  | error m => simp
  | ok document =>
    simp only [Except.ok.injEq, exists_eq_left', ← Value.bind_asArray?_eq_some_iff]
    cases (document.member? "items").bind Value.asArray? <;> simp

theorem ofList_eq_error {output : String} {e : Error} (h : ofList output = .error e) :
    ∃ m, e = .decode "pod list" m := by
  unfold ofList at h
  split at h
  · cases h
    exact ⟨_, rfl⟩
  · split at h
    · cases h
    · cases h
      exact ⟨_, rfl⟩

end Pods

namespace ResourceSet

open Pods

theorem judgePods_eq_converged_iff {pods : List Value} {n : Nat} :
    judgePods pods = .converged n ↔ pods.length = n ∧ 1 ≤ n ∧ ∀ pod ∈ pods, Ready pod := by
  rw [← unready_eq_nil_iff, judgePods]
  by_cases none : pods = []
  · subst none
    simp only [List.isEmpty_nil, if_true, reduceCtorEq, List.length_nil, false_iff]
    omega
  · have some_pod : 1 ≤ pods.length := List.length_pos_iff.mpr none
    rw [if_neg (by simpa using none)]
    by_cases ready : unready pods = []
    · rw [if_pos (by simpa using ready), Verdict.converged.injEq]
      exact ⟨fun h => ⟨h, h ▸ some_pod, ready⟩, And.left⟩
    · rw [if_neg (by simpa using ready)]
      exact ⟨nofun, fun h => absurd h.2.2 ready⟩

theorem judgePods_eq_notYet_iff {pods : List Value} {seen : String} :
    judgePods pods = .notYet seen ↔ pods = [] ∧ seen = "no pods match" ∨
      ∃ names, UnreadyNames pods names ∧ names ≠ [] ∧
        seen = toString names.length ++ "/" ++ toString pods.length ++ " pods not ready: "
          ++ " ".intercalate names := by
  simp only [unreadyNames_iff, exists_eq_left]
  rw [judgePods]
  by_cases none : pods = []
  · subst none
    simp [unready, eq_comm]
  · rw [if_neg (by simpa using none)]
    by_cases ready : unready pods = []
    · simp [none, ready]
    · rw [if_neg (by simpa using ready), Verdict.notYet.injEq]
      constructor
      · rintro rfl
        exact .inr ⟨ready, rfl⟩
      · rintro (⟨empty, -⟩ | ⟨-, rfl⟩)
        · exact absurd empty none
        · rfl

theorem judgePods_ne_fatal (pods : List Value) (e : Error) : judgePods pods ≠ .fatal e := by
  unfold judgePods
  dsimp only
  split_ifs <;> exact nofun

/-! ## The verdict on an output -/

section

variable (s : ResourceSet) (f : Filter) {output : String}

theorem judge_podsReady_of_list {pods : List Value} (h : Lists output pods) :
    (s.podsReady f).judge (.ok output) = judgePods pods := by
  have answered : ObjectRef.answer s.kind (.ok output) = .ok output := rfl
  simp only [podsReady, answered, ofList_eq_ok_iff.mpr h]

theorem judge_podsReady_of_no_list (h : ¬ ∃ pods, Lists output pods) :
    ∃ m, (s.podsReady f).judge (.ok output) = .fatal (.decode "pod list" m) := by
  cases hl : ofList output with
  | ok pods => exact absurd ⟨pods, ofList_eq_ok_iff.mp hl⟩ h
  | error e =>
    obtain ⟨m, rfl⟩ := ofList_eq_error hl
    have answered : ObjectRef.answer s.kind (.ok output) = .ok output := rfl
    exact ⟨m, by simp only [podsReady, answered, hl]⟩

theorem judge_podsReady_eq_iff {v : Verdict Nat} (hv : ∀ e, v ≠ .fatal e) :
    (s.podsReady f).judge (.ok output) = v ↔ ∃ pods, Lists output pods ∧ judgePods pods = v := by
  constructor
  · intro h
    by_cases listed : ∃ pods, Lists output pods
    · obtain ⟨pods, hl⟩ := listed
      exact ⟨pods, hl, (judge_podsReady_of_list s f hl).symm.trans h⟩
    · obtain ⟨m, hm⟩ := judge_podsReady_of_no_list s f listed
      exact absurd (h.symm.trans hm) (hv _)
  · rintro ⟨pods, hl, rfl⟩
    exact judge_podsReady_of_list s f hl

theorem judge_podsReady_fatal {e : Error} (h : (s.podsReady f).judge (.ok output) = .fatal e) :
    (¬ ∃ pods, Lists output pods) ∧ ∃ m, e = .decode "pod list" m := by
  have unlisted : ¬ ∃ pods, Lists output pods := by
    rintro ⟨pods, hl⟩
    rw [judge_podsReady_of_list s f hl] at h
    exact judgePods_ne_fatal pods e h
  obtain ⟨m, hm⟩ := judge_podsReady_of_no_list s f unlisted
  rw [hm] at h
  cases h
  exact ⟨unlisted, m, rfl⟩

theorem ok_of_judge_podsReady {reply : Except CommandFailure String} {n : Nat}
    (h : (s.podsReady f).judge reply = .converged n) : ∃ output, reply = .ok output := by
  cases reply with
  | ok output => exact ⟨output, rfl⟩
  | error cause => exact absurd h (Verdict.ofError_ne_converged (.ofCommand cause s.kind) n)

end

/-- A look at the pods converges to their number if the output lists pods, at least one, and all of
them are ready. An output that lists no pods at all is undecodable. On any other one the wait goes
on, and tells that no pods match, or how many pods of the list, and which, are not ready. So a wait
for pods succeeds only on a list of that many pods that are all ready, whatever the script. -/
theorem judges_pods (s : ResourceSet) (f : Filter) :
    (∀ output,
      let verdict := (s.podsReady f).judge (.ok output)
      (∀ n, verdict = .converged n ↔
        ∃ pods, Lists output pods ∧ pods.length = n ∧ 1 ≤ n ∧ ∀ pod ∈ pods, Ready pod) ∧
      ((∃ e, verdict = .fatal e) ↔ ¬ ∃ pods, Lists output pods) ∧
      (∀ e, verdict = .fatal e → ∃ m, e = .decode "pod list" m) ∧
      ∀ seen, verdict = .notYet seen ↔
        ∃ pods, Lists output pods ∧ (pods = [] ∧ seen = "no pods match" ∨
          ∃ names, UnreadyNames pods names ∧ names ≠ [] ∧
            seen = toString names.length ++ "/" ++ toString pods.length ++ " pods not ready: "
              ++ " ".intercalate names)) ∧
    ∀ {σ : Type} [Cluster σ] (policy : Policy) (w : World σ) (n : Nat),
      (s.awaitPodsReady f policy w).1 = .success n →
      ∃ k ≤ policy.pauses, ∃ output pods,
        (w.replyAt (s.query f "json") policy k).result = .ok output ∧
        (s.awaitPodsReady f policy w).2.log =
          List.replicate (k + 1) (s.query f "json") ++ w.log ∧
        Lists output pods ∧ pods.length = n ∧ 1 ≤ n ∧ ∀ pod ∈ pods, Ready pod := by
  have converged (output : String) (n : Nat) :
      (s.podsReady f).judge (.ok output) = .converged n ↔
        ∃ pods, Lists output pods ∧ pods.length = n ∧ 1 ≤ n ∧ ∀ pod ∈ pods, Ready pod := by
    rw [judge_podsReady_eq_iff s f (v := .converged n) fun _ => nofun]
    simp only [judgePods_eq_converged_iff]
  refine ⟨fun output => ⟨converged output, ⟨?_, ?_⟩, ?_, fun seen => ?_⟩, ?_⟩
  · rintro ⟨e, h⟩
    exact (judge_podsReady_fatal s f h).1
  · intro unlisted
    obtain ⟨m, hm⟩ := judge_podsReady_of_no_list s f unlisted
    exact ⟨_, hm⟩
  · intro e h
    exact (judge_podsReady_fatal s f h).2
  · rw [judge_podsReady_eq_iff s f (v := .notYet seen) fun _ => nofun]
    simp only [judgePods_eq_notYet_iff]
  · intro σ _ policy w n success
    obtain ⟨k, hk, verdict, -, log⟩ := Client.await_of_success success
    obtain ⟨output, answered⟩ := ok_of_judge_podsReady s f verdict
    rw [answered] at verdict
    obtain ⟨pods, listed⟩ := (converged output n).mp verdict
    exact ⟨k, hk, output, pods, answered, log, listed⟩

/-- Two pods, the second of which has no container's word at first. The second list shows both
ready, and it is the second list on which the wait succeeds. -/
theorem judges_pods_on_second_list :
    let s : ResourceSet := ⟨⟨.admin, false⟩, "pod", some "t1"⟩
    let pod (name ready : String) : String := "\x7b\"metadata\":\x7b\"name\":\"" ++ name
      ++ "\"\x7d,\"status\":\x7b\"containerStatuses\":[" ++ ready ++ "]\x7d\x7d"
    let list (pods : String) : String := "\x7b\"items\":[" ++ pods ++ "]\x7d"
    let ready : String := "\x7b\"ready\":true\x7d"
    let early : String := list (pod "a" ready ++ "," ++ pod "b" "")
    let late : String := list (pod "a" ready ++ "," ++ pod "b" ready)
    let w : World Rehearsal.Script :=
      { now := 0, cancelAt := none, log := [], files := .blank, names := .ofSeed 0 8
        cluster := ⟨[{ left := some 1, reply := ⟨.ok early, false⟩ },
          { reply := ⟨.ok late, false⟩ }]⟩ }
    (s.podsReady {}).judge (.ok early) = .notYet "1/2 pods not ready: b" ∧
      (s.awaitPodsReady {} (.ofSecs 3 7) w).1 = .success 2 ∧
      ∃ output pods, Lists output pods ∧ pods.length = 2 ∧ ∀ pod ∈ pods, Ready pod := by
  intro s pod list ready early late w
  have success : (s.awaitPodsReady {} (.ofSecs 3 7) w).1 = .success 2 := by decide +kernel
  refine ⟨by decide +kernel, success, ?_⟩
  obtain ⟨-, waits⟩ := judges_pods s {}
  obtain ⟨_, _, output, pods, _, _, listed, count, _, all_ready⟩ := waits _ w 2 success
  exact ⟨output, pods, listed, count, all_ready⟩

end ResourceSet

end Settle
