import Settle.Proofs.CommandLine.Commands
import Settle.Proofs.Watch.Values

/-!
# Listings that wait

The task `list` can wait for a number of objects before it lists them. The wait and the listing are
queries of their own: the wait ends with the first answer that names enough, and what is printed is
the answer to the same query once more (`list_after_wait`). When objects vanish in between, fewer
are printed than were waited for (`list_after_wait_of_fewer`).
-/

namespace Settle

namespace Subprocess

variable {η : Type} [Host η]

def after (s : Subprocess η) (i : Invocation) : Nat → Subprocess η
  | 0 => s
  | k + 1 => ((s.after i k).run i).2

def reply (s : Subprocess η) (i : Invocation) (k : Nat) : Except CommandFailure String :=
  ((s.after i k).run i).1

theorem stateAt_eq (s : Subprocess η) (i : Invocation) (p : Policy) (start : Duration) (k : Nat) :
    Cluster.stateAt i p start s k = s.after i k := by
  induction k with
  | zero => rfl
  | succ k ih =>
    rw [Cluster.stateAt, ih]
    rfl

/-- Programs do not see the timetable on which they are run. -/
theorem replyAt_eq {w : World (Subprocess η)} (i : Invocation) (p : Policy) (k : Nat) :
    (w.replyAt i p k).result = w.cluster.reply i k := by
  unfold World.replyAt Cluster.replyAt
  rw [stateAt_eq]
  rfl

end Subprocess

namespace CommandLine

def Lists (answer : Except CommandFailure String) (names : List String) : Prop :=
  ∃ output, answer = .ok output ∧ Text.HasWords output.toList names

theorem lists_of_namesIn {s : ResourceSet} {answer : Except CommandFailure String}
    {names : List String} (h : s.namesIn answer = .ok names) : Lists answer names := by
  cases answer with
  | error failure => cases h
  | ok output =>
    cases h
    exact ⟨output, rfl, Text.hasWords_iff.mpr rfl⟩

theorem size_converged_iff {s : ResourceSet} {f : Filter} {n size : Nat}
    {answer : Except CommandFailure String} :
    (s.size f (.atLeast n)).judge answer = .converged size ↔
      ∃ names, Lists answer names ∧ names.length = size ∧ n ≤ size := by
  have met : (s.size f (.atLeast n)).judge answer = .converged size ↔
      (Awaited.size s f (.atLeast n)).MetBy size answer :=
    Awaited.judge_eq_converged_iff (x := .size s f (.atLeast n))
  rw [met]
  cases answer with
  | ok output =>
    constructor
    · rintro ⟨names, words, length, enough⟩
      exact ⟨names, ⟨output, rfl, words⟩, length, of_decide_eq_true enough⟩
    · rintro ⟨names, ⟨_, ⟨⟩, words⟩, length, enough⟩
      exact ⟨names, words, length, decide_eq_true enough⟩
  | error failure =>
    constructor
    · intro succeeds
      have usual : Awaited.Consequence.usual failure.kind = .succeeds := succeeds
      cases hk : failure.kind <;> rw [hk] at usual <;> cases usual
    · rintro ⟨names, ⟨_, ⟨⟩, -⟩, -⟩

theorem Plan.ofTask_list {c : Config} {client : Client} {scope : Option String} {kind : String}
    {labels : List String} {byCreation : Bool} {n : Nat} {pacing : Pacing} {plan : Plan}
    (planned : ofTask c client scope (.list kind labels byCreation (some n) pacing) = .ok plan) :
    ∃ policy, Plan.policy c.policies.resource pacing = .ok policy ∧
      plan = .list ⟨client, kind, scope⟩
        { labels, sortBy := if byCreation then some Filter.creation else none }
        (some (n, policy)) := by
  cases hp : Plan.policy c.policies.resource pacing with
  | error fault =>
    simp only [ofTask, Option.mapM_some, hp] at planned
    cases planned
  | ok policy =>
    simp only [ofTask, Option.mapM_some, hp] at planned
    cases planned
    exact ⟨policy, rfl, rfl⟩

section

variable {η : Type} [Host η] {s : ResourceSet} {f : Filter} {n : Nat} {policy : Policy}
  {w : World (Subprocess η)}

/-- The wait that succeeds has had one answer after another without enough names, and then one with
enough of them. -/
theorem awaitSize_answered {size : Nat}
    (ended : (s.awaitSize f (.atLeast n) policy w).1 = .success size) :
    ∃ k ≤ policy.pauses,
      (∃ seen, Lists (w.cluster.reply (s.namesQuery f) k) seen ∧ n ≤ seen.length) ∧
      (∀ j < k, ∀ names, Lists (w.cluster.reply (s.namesQuery f) j) names → names.length < n) ∧
      Answered (s.namesQuery f) policy w k (s.awaitSize f (.atLeast n) policy w).2 := by
  obtain ⟨k, hk, converged, before, answered⟩ := Client.await_answered ended
  refine ⟨k, hk, ?_, fun j hj names lists => ?_, answered⟩
  · rw [Subprocess.replyAt_eq] at converged
    obtain ⟨seen, lists, rfl, enough⟩ := size_converged_iff.mp converged
    exact ⟨seen, lists, enough⟩
  · by_contra many
    have decided : (s.size f (.atLeast n)).judge (w.cluster.reply (s.namesQuery f) j) =
        .converged names.length :=
      size_converged_iff.mpr ⟨names, lists, rfl, Nat.le_of_not_lt many⟩
    have undecided := before j hj
    rw [Subprocess.replyAt_eq] at undecided
    change ((s.size f (.atLeast n)).judge
      (w.cluster.reply (s.namesQuery f) j)).outcome? = none at undecided
    rw [decided] at undecided
    cases undecided

theorem names_of_answered {k : Nat} {v : World (Subprocess η)} {names : List String}
    (answered : Answered (s.namesQuery f) policy w k v) (named : (s.names f v).1 = .ok names) :
    Lists (w.cluster.reply (s.namesQuery f) (k + 1)) names := by
  have next : (Action.issue (s.namesQuery f) v).1 = w.cluster.reply (s.namesQuery f) (k + 1) := by
    rw [Action.issue_fst, answered.cluster, Subprocess.stateAt_eq]
    rfl
  rw [← next]
  exact lists_of_namesIn named

/-- A listing that waits gives the answer to one more query than its wait has issued. -/
theorem Plan.perform_list {completion : Completion}
    (done : (Plan.perform (.list s f (some (n, policy))) w).1 = .ok completion) :
    ∃ k ≤ policy.pauses, ∃ seen shown,
      Lists (w.cluster.reply (s.namesQuery f) k) seen ∧ n ≤ seen.length ∧
      (∀ j < k, ∀ names, Lists (w.cluster.reply (s.namesQuery f) j) names → names.length < n) ∧
      Lists (w.cluster.reply (s.namesQuery f) (k + 1)) shown ∧
      completion = .answering "items" (.lines shown) ∧
      w.Issued (Plan.perform (.list s f (some (n, policy))) w).2
        (List.replicate (k + 2) (s.namesQuery f)) := by
  simp only [perform, awaitAtLeast, Action.bind_apply, Action.pure_apply] at done ⊢
  cases ended : (s.awaitSize f (.atLeast n) policy w).1 with
  | timedOut elapsed last =>
    rw [ended] at done
    cases done
  | fatal cause =>
    rw [ended] at done
    cases done
  | success size =>
    rw [ended] at done
    obtain ⟨k, hk, ⟨seen, lists, enough⟩, before, answered⟩ := awaitSize_answered ended
    generalize (s.awaitSize f (.atLeast n) policy w).2 = v at done answered ⊢
    have listed : ((s.names f v).1.map fun names => Completion.answering "items" (.lines names)) =
        .ok completion := done
    cases named : (s.names f v).1 with
    | error cause =>
      rw [named] at listed
      cases listed
    | ok shown =>
      rw [named] at listed
      cases listed
      refine ⟨k, hk, seen, shown, lists, enough, before, names_of_answered answered named, rfl, ?_⟩
      have log : (Action.issue (s.namesQuery f) v).2.log =
          (List.replicate (k + 2) (s.namesQuery f)).reverse ++ w.log := by
        rw [Action.issue_log, answered.log, List.reverse_replicate]
        rfl
      exact log

end

/-- A command line for a listing that waits for at least `n` objects, and the run of it ends with
status 0: the wait ended with the first answer that has so many names, and what is printed are the
names in the answer to one more run of the same query. So at least `n` names are printed unless the
last answer has fewer than the one before it. -/
theorem list_after_wait {η : Type} [Host η] (args : List String) (site : Site η) {r : Request}
    {kind : String} {labels : List String} {byCreation : Bool} {n : Nat} {pacing : Pacing}
    (read : Request.read (site.env.lookup "CONVERGE_CONFIG") args = .ok r)
    (task : r.task = .list kind labels byCreation (some n) pacing)
    (success : (run args site).1.status = 0) :
    let s : ResourceSet := ⟨{ account := r.account }, kind, r.scope⟩
    let query := s.namesQuery
      { labels, sortBy := if byCreation then some Filter.creation else none }
    ∃ c policy, configure site.env site.files r.config = .ok c ∧
      Plan.policy c.policies.resource pacing = .ok policy ∧
      let answer := (subprocess site.env c site.host).reply query
      ∃ k ≤ policy.pauses, ∃ seen shown,
        Lists (answer k) seen ∧ n ≤ seen.length ∧
        (∀ j < k, ∀ names, Lists (answer j) names → names.length < n) ∧
        Lists (answer (k + 1)) shown ∧
        (run args site).1 =
          { status := 0, stdout := printed r.format (some ("items", .lines shown)) } ∧
        r.commands site = List.replicate (k + 2) query ∧
        (seen.length ≤ shown.length → n ≤ shown.length) := by
  intro s query
  obtain ⟨c, plan, completion, planned, done, ran⟩ := run_of_success read success
  obtain ⟨configured, made⟩ := Request.plan_ok planned
  rw [task] at made
  obtain ⟨policy, paced, rfl⟩ := Plan.ofTask_list made
  obtain ⟨k, hk, seen, shown, lists, enough, before, last, rfl, issued⟩ := Plan.perform_list done
  exact ⟨c, policy, configured, paced, k, hk, seen, shown, lists, enough, before, last, ran,
    Request.commands_of_plan planned issued, enough.trans⟩

/-- Two objects when the wait looks, one of them when they are listed. -/
theorem list_after_wait_of_fewer :
    let site : Site Rehearsal.Transcript :=
      { env := [], files := .blank, names := .ofSeed 0 8
        host := { left := [{ stdout := "a b".toUTF8 }, { stdout := "a".toUTF8 }] } }
    Request.read (site.env.lookup "CONVERGE_CONFIG") ["list", "pod", "--at-least", "2"] =
        .ok { config := none, scope := none, account := .admin, format := .text
              task := .list "pod" [] false (some 2) {} } ∧
      (run ["list", "pod", "--at-least", "2"] site).1 =
        { status := 0, stdout := printed .text (some ("items", .lines ["a"])) } ∧
      ¬ 2 ≤ ["a"].length := by
  decide +kernel

/-- One object, then two of them, then three when they are listed. -/
theorem list_after_wait_of_more :
    let site : Site Rehearsal.Transcript :=
      { env := [], files := .blank, names := .ofSeed 0 8
        host := { left := [{ stdout := "a".toUTF8 }, { stdout := "a b".toUTF8 },
          { stdout := "a b c".toUTF8 }] } }
    let args := ["list", "pod", "--at-least", "2"]
    let r : Request :=
      { config := none, scope := none, account := .admin, format := .text
        task := .list "pod" [] false (some 2) {} }
    (run args site).1 = { status := 0, stdout := "a\nb\nc\n" } ∧
      r.commands site =
        List.replicate 3 (ResourceSet.namesQuery ⟨{}, "pod", none⟩ {}) := by
  intro site args r
  have printed : (run args site).1 = { status := 0, stdout := "a\nb\nc\n" } := by decide +kernel
  have three : (r.commands site).length = 3 := by decide +kernel
  obtain ⟨_, _, -, -, k, -, _, _, -, -, -, -, -, issued, -⟩ :=
    list_after_wait args site (r := r) rfl rfl (by rw [printed])
  rw [issued, List.length_replicate] at three
  rw [three] at issued
  exact ⟨printed, issued⟩

end CommandLine

end Settle
