import Mathlib.Data.List.TakeWhile
import Settle.Handle
import Settle.Proofs.Json.Kinds
import Settle.Proofs.Watch.Answers
import Settle.Rehearsal.Cluster

/-!
# Rollouts that are complete

Which kinds name a workload, and which counters a document shows of one. The wait for a rollout
takes all three counters from one answer, and compares them with nothing else: it succeeds on the
first document in which they agree, whatever the documents before it have shown
(`Handle.awaitRollout_counters`).
-/

namespace Settle

open Json (Value)

namespace Workload

/-! ## Kinds -/

/-- The part of a kind before its first dot is spelled like this, but for the case of ASCII letters.
-/
def Spelled (kind spelling : String) : Prop :=
  ∃ part rest, kind.toList = part ++ rest ∧ '.' ∉ part ∧ (rest = [] ∨ rest.head? = some '.') ∧
    part.map Char.toLower = spelling.toList

def spellings : Workload → List String
  | .deployment => ["deployment", "deployments", "deploy"]
  | .daemonSet => ["daemonset", "daemonsets", "ds"]

def NamedBy (w : Workload) (kind : String) : Prop := ∃ s ∈ w.spellings, Spelled kind s

theorem toLower_eq_dot_iff {c : Char} : c.toLower = '.' ↔ c = '.' := by
  unfold Char.toLower
  split
  · rename_i upper
    constructor
    · intro dot
      have value := congrArg Char.val dot
      simp at value upper
      grind
    · rintro rfl
      exact absurd upper (by decide)
  · rfl

/-- Cutting at the dot and lowering the case go in either order. -/
theorem bareKind_eq (kind : String) : bareKind kind =
    String.ofList ((kind.toList.takeWhile (· ≠ '.')).map Char.toLower) := by
  rw [bareKind, List.takeWhile_map]
  congr 3
  funext c
  simp [toLower_eq_dot_iff]

theorem spelled_iff {kind spelling : String} :
    Spelled kind spelling ↔ bareKind kind = spelling := by
  rw [bareKind_eq, ← String.toList_inj, String.toList_ofList]
  constructor
  · rintro ⟨part, rest, split, undotted, stops, lowered⟩
    have plain : ∀ c ∈ part, decide (c ≠ '.') = true :=
      fun c hc => decide_eq_true (ne_of_mem_of_not_mem hc undotted)
    have stop : rest.takeWhile (· ≠ '.') = [] := by
      rcases stops with rfl | dotted
      · rfl
      · obtain ⟨rest, rfl⟩ := List.head?_eq_some_iff.mp dotted
        rfl
    have cut : kind.toList.takeWhile (· ≠ '.') = part := by
      rw [split, List.takeWhile_append_of_pos plain, stop, List.append_nil]
    rw [cut, lowered]
  · intro lowered
    refine ⟨_, _, (List.takeWhile_append_dropWhile (p := (· ≠ '.'))).symm, ?_, ?_, lowered⟩
    · intro dot
      simpa using List.mem_takeWhile_imp dot
    · have stops := List.head?_dropWhile_not (· ≠ '.') kind.toList
      cases hr : kind.toList.dropWhile (· ≠ '.') with
      | nil => exact .inl rfl
      | cons c rest =>
        rw [hr] at stops
        exact .inr (by simpa using stops)

theorem ofKind?_eq_some_iff {w : Workload} {kind : String} :
    ofKind? kind = some w ↔ w.NamedBy kind := by
  simp only [NamedBy, spelled_iff, exists_eq_right']
  unfold ofKind?
  split <;> cases w <;> simp_all [spellings]

theorem ofKind?_eq_none_iff {kind : String} :
    ofKind? kind = none ↔ ∀ w : Workload, ¬ w.NamedBy kind := by
  simp only [← ofKind?_eq_some_iff, Option.eq_none_iff_forall_ne_some, ne_eq]

/-! ## Counters -/

/-- The document shows this counter at the pointer: the whole number there, if it is one of 64 bits
without sign, and else the number that is meant when there is none. -/
inductive Shows (document : Value) (pointer : String) (meant : Nat) : Nat → Prop where
  | counted {n : Nat} : n < Nat.pow 2 64 →
    document.pointer? pointer = some (.number (.whole n)) → Shows document pointer meant n
  | uncounted : (∀ n : Nat, n < Nat.pow 2 64 →
    document.pointer? pointer ≠ some (.number (.whole n))) → Shows document pointer meant meant

/-- The counters of a workload that the document shows. -/
def Reports (w : Workload) (document : Value) (r : Rollout) : Prop :=
  match w with
  | .deployment =>
    Shows document "/spec/replicas" 1 r.desired ∧
      Shows document "/status/availableReplicas" 0 r.ready ∧
      Shows document "/status/updatedReplicas" 0 r.updated
  | .daemonSet =>
    Shows document "/status/desiredNumberScheduled" 0 r.desired ∧
      Shows document "/status/numberReady" 0 r.ready ∧
      Shows document "/status/updatedNumberScheduled" 0 r.updated

theorem shows_iff {document : Value} {pointer : String} {meant n : Nat} :
    Shows document pointer meant n ↔ (counter? document pointer).getD meant = n := by
  unfold counter?
  cases hc : (document.pointer? pointer).bind Value.asNat? with
  | some m =>
    obtain ⟨hm, there⟩ := Value.bind_asNat?_eq_some_iff.mp hc
    rw [Option.getD_some]
    constructor
    · rintro (⟨hn, found⟩ | none)
      · rw [there] at found
        cases found
        rfl
      · exact absurd there (none m hm)
    · rintro rfl
      exact .counted hm there
  | none =>
    have none (k : Nat) (hk : k < Nat.pow 2 64) :
        document.pointer? pointer ≠ some (.number (.whole k)) := by
      intro found
      rw [Value.bind_asNat?_eq_some_iff.mpr ⟨hk, found⟩] at hc
      cases hc
    rw [Option.getD_none]
    constructor
    · rintro (⟨hn, found⟩ | -)
      · exact absurd found (none _ hn)
      · rfl
    · rintro rfl
      exact .uncounted none

theorem reports_iff {w : Workload} {document : Value} {r : Rollout} :
    w.Reports document r ↔ w.rollout document = r := by
  cases w <;> cases r <;> simp only [Reports, shows_iff, rollout, Rollout.mk.injEq]

end Workload

theorem Rollout.isComplete_iff {r : Rollout} :
    r.isComplete = true ↔ ∃ d, r = ⟨d, d, d⟩ := by
  obtain ⟨desired, ready, updated⟩ := r
  simp only [isComplete, Bool.and_eq_true, beq_iff_eq, mk.injEq]
  constructor
  · rintro ⟨rfl, rfl⟩
    exact ⟨_, rfl, rfl, rfl⟩
  · rintro ⟨d, rfl, rfl, rfl⟩
    exact ⟨rfl, rfl⟩

/-! ## The verdict on an answer -/

namespace Workload

/-- An answer after which the wait for a rollout goes on: a failure that may pass, or a document
whose counters are not all the same. -/
inductive LeavesOpen (workload : Workload) : Except CommandFailure String → Prop where
  | failure {f : CommandFailure} : f.kind = .transient ∨ f.kind = .notFound →
    LeavesOpen workload (.error f)
  | document {output : String} {document : Value} {r : Rollout} :
    Json.parse output = .ok document → workload.Reports document r → (∀ d, r ≠ ⟨d, d, d⟩) →
    LeavesOpen workload (.ok output)

end Workload

namespace ObjectRef

variable (o : ObjectRef) (c : Client) {workload : Workload}

theorem judge_rollout_of_document {output : String} {document : Value} {r : Rollout}
    (parsed : Json.parse output = .ok document) (reports : workload.Reports document r) :
    (o.rollout c workload).judge (.ok output) =
      if r.isComplete then .converged r.desired else .notYet r.text := by
  obtain rfl := Workload.reports_iff.mp reports
  have read : o.document (.ok output) = .ok document := by
    show (Json.parse output).mapError _ = _
    rw [parsed]
    rfl
  simp only [rollout, read]

theorem judge_rollout_of_garbled {output m : String} (garbled : Json.parse output = .error m) :
    (o.rollout c workload).judge (.ok output) = .fatal (.decode o.target m) := by
  have read : o.document (.ok output) = .error (.decode o.target m) := by
    show (Json.parse output).mapError _ = _
    rw [garbled]
    rfl
  simp only [rollout, read]
  rfl

theorem judge_rollout_of_leavesOpen {answer : Except CommandFailure String}
    (h : workload.LeavesOpen answer) :
    ((o.rollout c workload).judge answer).outcome? = none := by
  cases h with
  | @failure f kind =>
    show (Verdict.ofError (Error.ofCommand f o.target)).outcome? = none
    rcases kind with kind | kind <;> rw [Error.ofCommand, kind] <;> rfl
  | document parsed reports level =>
    rw [judge_rollout_of_document o c parsed reports, if_neg]
    · rfl
    · rw [Rollout.isComplete_iff]
      exact fun ⟨d, hd⟩ => level d hd

theorem judge_rollout_converged {answer : Except CommandFailure String} {d : Nat}
    (h : (o.rollout c workload).judge answer = .converged d) :
    ∃ output document, answer = .ok output ∧ Json.parse output = .ok document ∧
      workload.Reports document ⟨d, d, d⟩ := by
  cases answer with
  | error f => exact absurd h (Verdict.ofError_ne_converged (.ofCommand f o.target) d)
  | ok output =>
    cases parsed : Json.parse output with
    | error m => rw [judge_rollout_of_garbled o c parsed] at h; cases h
    | ok document =>
      have reports : workload.Reports document (workload.rollout document) :=
        Workload.reports_iff.mpr rfl
      rw [judge_rollout_of_document o c parsed reports] at h
      split at h
      · rename_i complete
        obtain ⟨d', hd⟩ := Rollout.isComplete_iff.mp complete
        rw [hd] at h reports
        cases h
        exact ⟨output, document, rfl, parsed, reports⟩
      · cases h

end ObjectRef

/-! ## The wait -/

variable {σ : Type} [Cluster σ]

theorem Handle.awaitRollout_of_namedBy {h : Handle} {workload : Workload}
    (named : workload.NamedBy h.object.kind) (policy : Policy) :
    h.awaitRollout (σ := σ) policy =
      h.client.await (h.object.rollout h.client workload) policy := by
  unfold awaitRollout
  rw [Workload.ofKind?_eq_some_iff.mpr named]

theorem Handle.awaitRollout_of_not_namedBy {h : Handle}
    (unnamed : ∀ workload : Workload, ¬ workload.NamedBy h.object.kind) (policy : Policy)
    (w : World σ) :
    h.awaitRollout policy w = (.fatal (.noRolloutStatus h.object.kind), w) := by
  unfold awaitRollout
  rw [Workload.ofKind?_eq_none_iff.mpr unnamed]
  rfl

/-- Of a kind that names no workload no rollout is awaited: nothing is done at all. Of any other
one, the wait succeeds only with the number that its last answer shows three times. The first
document that does so ends it; every other document is told as it is, and is the last word if it
comes on the deadline; the first text that is no document is fatal. -/
theorem Handle.awaitRollout_counters (h : Handle) (policy : Policy) (w : World σ) :
    ((∀ workload : Workload, ¬ workload.NamedBy h.object.kind) →
      h.awaitRollout policy w = (.fatal (.noRolloutStatus h.object.kind), w)) ∧
    ∀ workload : Workload, workload.NamedBy h.object.kind →
      h.client.Uncancelled (h.object.jsonQuery h.client) policy w →
      let query := h.object.jsonQuery h.client
      let answer (k : Nat) := (w.replyAt query policy k).result
      (∀ d, (h.awaitRollout policy w).1 = .success d →
        ∃ k ≤ policy.pauses, ∃ output document,
          w.EndsWith query policy k (.success d) (h.awaitRollout policy w) ∧
          answer k = .ok output ∧ Json.parse output = .ok document ∧
          workload.Reports document ⟨d, d, d⟩) ∧
      ∀ k ≤ policy.pauses, (∀ j < k, workload.LeavesOpen (answer j)) →
        ∀ output, answer k = .ok output →
          (∀ document, Json.parse output = .ok document → ∀ r, workload.Reports document r →
            (∀ d, r = ⟨d, d, d⟩ →
              w.EndsWith query policy k (.success d) (h.awaitRollout policy w)) ∧
            ((∀ d, r ≠ ⟨d, d, d⟩) →
              (h.object.rollout h.client workload).judge (answer k) = .notYet r.text ∧
              (k = policy.pauses → w.EndsWith query policy k (.timedOut policy.timeout r.text)
                (h.awaitRollout policy w)))) ∧
          ∀ m, Json.parse output = .error m →
            w.EndsWith query policy k (.fatal (.decode h.object.target m))
              (h.awaitRollout policy w) := by
  refine ⟨fun unnamed => awaitRollout_of_not_namedBy unnamed policy w, ?_⟩
  intro workload named uncancelled query answer
  have open_before {k : Nat} (before : ∀ j < k, workload.LeavesOpen (answer j)) (j : Nat)
      (hj : j < k) := h.object.judge_rollout_of_leavesOpen h.client (before j hj)
  rw [awaitRollout_of_namedBy named]
  constructor
  · intro d success
    obtain ⟨k, hk, verdict, before, -⟩ := Client.await_of_success success
    obtain ⟨output, document, answered, parsed, reports⟩ :=
      h.object.judge_rollout_converged h.client verdict
    exact ⟨k, hk, output, document, Client.await_endsWith uncancelled hk before
      (Verdict.outcome?_eq_success.mpr verdict), answered, parsed, reports⟩
  · intro k hk before output answered
    refine ⟨fun document parsed r reports => ?_, fun m garbled => ?_⟩
    · have verdict : (h.object.rollout h.client workload).judge (answer k) =
          if r.isComplete then .converged r.desired else .notYet r.text := by
        rw [answered]
        exact h.object.judge_rollout_of_document h.client parsed reports
      refine ⟨fun d level => ?_, fun uneven => ?_⟩
      · subst level
        rw [if_pos (Rollout.isComplete_iff.mpr ⟨d, rfl⟩)] at verdict
        exact Client.await_endsWith uncancelled hk (open_before before)
          (Verdict.outcome?_eq_success.mpr verdict)
      · rw [if_neg fun complete => (Rollout.isComplete_iff.mp complete).elim uneven] at verdict
        refine ⟨verdict, fun last => ?_⟩
        subst last
        exact Client.await_endsWith_last uncancelled (open_before before) verdict
    · have verdict : (h.object.rollout h.client workload).judge (answer k) =
          .fatal (.decode h.object.target m) := by
        rw [answered]
        exact h.object.judge_rollout_of_garbled h.client garbled
      exact Client.await_endsWith uncancelled hk (open_before before)
        (Verdict.outcome?_eq_fatal.mpr verdict)

/-- A deployment that is scaled while it is waited for: first one replica of two is available, then
all three of three. No counter of the first document counts in the end. -/
theorem Handle.awaitRollout_counters_of_scaled :
    let h : Handle := ⟨⟨.admin, true⟩, ⟨"Deployments.apps", some "t1", "d1"⟩, .unknown⟩
    let query : Invocation := h.object.jsonQuery h.client
    let document (desired ready updated : String) : String :=
      "\x7b\"spec\":\x7b\"replicas\":" ++ desired ++ "\x7d,\"status\":\x7b\"availableReplicas\":"
        ++ ready ++ ",\"updatedReplicas\":" ++ updated ++ "\x7d\x7d"
    let w : World Rehearsal.Script :=
      { now := 0, cancelAt := none, log := [], files := .blank, names := .ofSeed 0 8
        cluster := ⟨[{ left := some 1, reply := ⟨.ok (document "2" "1" "2"), false⟩ },
          { reply := ⟨.ok (document "3" "3" "3"), false⟩ }]⟩ }
    Workload.deployment.NamedBy h.object.kind ∧ h.client.Uncancelled query (.ofSecs 3 7) w ∧
      ∃ output parsed, (w.replyAt query (.ofSecs 3 7) 1).result = .ok output ∧
        Json.parse output = .ok parsed ∧ Workload.deployment.Reports parsed ⟨3, 3, 3⟩ := by
  intro h query document w
  have named : Workload.deployment.NamedBy h.object.kind :=
    Workload.ofKind?_eq_some_iff.mp (by decide)
  have calm : w.cluster.Calm := by decide
  have uncancelled := calm.uncancelled rfl h.client query (.ofSecs 3 7)
  have success : (h.awaitRollout (.ofSecs 3 7) w).1 = .success 3 := by decide +kernel
  have looks : (h.awaitRollout (.ofSecs 3 7) w).2.log.length = 2 := by decide +kernel
  obtain ⟨-, counters⟩ := awaitRollout_counters h (.ofSecs 3 7) w
  obtain ⟨k, -, output, parsed, ends, answered, shown⟩ :=
    (counters .deployment named uncancelled).1 3 success
  obtain rfl : k = 1 := by
    rw [ends.log] at looks
    simpa [w] using looks
  exact ⟨named, uncancelled, output, parsed, answered, shown⟩

end Settle
