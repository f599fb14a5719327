import Settle.Proofs.Watch.Answers
import Settle.Proofs.Watch.Waits

/-!
# Checking and waiting

`Handle.isPresent` asks once whether an object exists, and the waits for presence and absence ask
the same question again and again. On one and the same answer the check says that the object exists
just when the wait for presence is over with its first look. When it says that the object does not
exist the wait for absence is over, too, with one exception (`Handle.check_agrees`): a query that
succeeds and names nothing shows no object to the check and one without a name to the wait
(`Handle.check_disagrees_on_blank`).
-/

namespace Settle

section First

variable {σ α : Type} [Cluster σ] {c : Client} {x : Watch α} {p : Policy} {w : World σ}

theorem Client.await_of_first (live : (c.pace p).mustStop w = false) {value : α}
    (converged : x.judge (Action.issue x.query w).1 = .converged value) :
    c.await x p w = (.success value, (Action.issue x.query w).2) := by
  refine Pace.await_of_turns (.last ?_) (Nat.zero_le _)
  rw [Pace.lookOnce_apply, if_neg (by simp [live]), Watch.look_apply, converged]

theorem Client.endsWith_first_iff (live : (c.pace p).mustStop w = false) {value : α} :
    w.EndsWith x.query p 0 (.success value) (c.await x p w) ↔
      x.judge (Action.issue x.query w).1 = .converged value := by
  constructor
  · intro ends
    rw [Polled.zero.issue_fst]
    exact ends.converged
  · intro converged
    rw [Client.await_of_first live converged]
    have answered : Answered x.query p w 0 (Action.issue x.query w).2 := Polled.zero.issue
    exact ⟨rfl, answered.log, answered.now⟩

end First

namespace ObjectRef

variable (o : ObjectRef) (c : Client) {answer : Except CommandFailure String}

theorem presence_converged_iff :
    (o.presence c).judge answer = .converged () ↔ Handle.existsIn o answer = .ok true := by
  cases answer with
  | ok name => cases h : name.isEmpty <;> simp_all [presence, Handle.existsIn]
  | error f => cases h : f.kind <;> simp [presence, Handle.existsIn, h]

/-- An answer that denies the object is taken for its absence unless it is a blank name. -/
theorem absence_converged_iff (denied : Handle.existsIn o answer = .ok false) :
    (o.absence c).judge answer = .converged () ↔ answer ≠ .ok "" := by
  cases answer with
  | ok name =>
    have blank : name = "" := by simpa [Handle.existsIn] using denied
    simp [absence, blank]
  | error f =>
    have kind : f.kind = .notFound := by
      by_contra other
      simp [Handle.existsIn, other] at denied
    simp [absence, kind]

end ObjectRef

namespace Handle

/-- A check and a wait that get the same answer, the wait to its first look: the object exists just
when the wait for its presence is over with this look. If it does not exist the wait for its absence
is over, unless the answer is a success that names nothing. -/
theorem check_agrees {σ τ : Type} [Cluster σ] [Cluster τ] (h : Handle) (policy : Policy)
    (w : World σ) (v : World τ) (live : (h.client.pace policy).mustStop v = false)
    (same : (Action.issue (h.object.nameQuery h.client) v).1 =
      (Action.issue (h.object.nameQuery h.client) w).1) :
    let query := h.object.nameQuery h.client
    ((h.isPresent w).1 = .ok true ↔
      v.EndsWith query policy 0 (.success ()) ((Awaited.presence h).run policy v)) ∧
    ((h.isPresent w).1 = .ok false →
      (v.EndsWith query policy 0 (.success ()) ((Awaited.absence h).run policy v) ↔
        (Action.issue query w).1 ≠ .ok "")) := by
  intro query
  have checked : (h.isPresent w).1 = existsIn h.object (Action.issue query v).1 := by
    rw [same]
    rfl
  rw [checked, Awaited.run_eq, Awaited.run_eq, ← same]
  constructor
  · rw [← h.object.presence_converged_iff h.client]
    exact (Client.endsWith_first_iff (x := h.object.presence h.client) live).symm
  · intro denied
    rw [← h.object.absence_converged_iff h.client denied]
    exact Client.endsWith_first_iff (x := h.object.absence h.client) live

/-- A cluster that answers every query with an empty text: the object does not exist, and yet the
wait for its absence uses up its time. -/
theorem check_disagrees_on_blank :
    let h : Handle := ⟨⟨.admin, false⟩, ⟨"widget", some "t1", "w1"⟩, .unknown⟩
    let w : World Rehearsal.Script :=
      { now := 0, cancelAt := none, log := [], files := .blank, names := .ofSeed 0 8
        cluster := .always "" }
    (h.isPresent w).1 = .ok false ∧
      ((Awaited.absence h).run (.ofSecs 1 2) w).1 =
        .timedOut (Policy.ofSecs 1 2).timeout "still present as " := by
  decide +kernel

end Handle

end Settle
