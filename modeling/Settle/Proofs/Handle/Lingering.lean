import Settle.Proofs.Handle.History
import Settle.Proofs.Watch.Answers
import Settle.Rehearsal.Cluster

/-!
# Objects that linger

Clearing an object deletes it and waits until it is gone. When the time for this is used up, the
lifecycle of the handle depends on what the delete command has found (`Handle.clear_of_timeout`). If
it was accepted, the handle is in doubt about the object. If it already found no object, the handle
keeps to that absence, and this even when every look of the wait has seen the object there
(`Handle.clear_lingers_gone`).
-/

namespace Settle

theorem Error.ofCommand_ne_timeout (f : CommandFailure) (target what : String) (elapsed : Duration)
    (last : String) : Error.ofCommand f target ≠ .timeout what elapsed last := by
  unfold Error.ofCommand
  cases f.kind <;> exact nofun

namespace Handle

section Timeout

variable {σ : Type} [Cluster σ] {h : Handle} {policy : Policy} {w : World σ} {what last : String}
  {elapsed : Duration}

theorem clear_result (h : Handle) (policy : Policy) (w : World σ) :
    (h.clear policy w).1.1 = (h.delete w).1.1.bind fun _ =>
      (h.awaitAbsence policy (h.delete w).2).1.1.toResult (h.object.absence h.client).goal := by
  have handle := h.delete_handle w
  unfold clear
  simp only [Action.bind_apply]
  rcases hd : h.delete w with ⟨⟨cause | ⟨⟩, h'⟩, w'⟩
  · rfl
  · rw [hd] at handle
    obtain rfl : h' = _ := handle
    rfl

theorem delete_ne_timeout : (h.delete w).1.1 ≠ .error (.timeout what elapsed last) := by
  show (h.deletion (Action.issue h.deleteCommand w).1).1 ≠ _
  cases (Action.issue h.deleteCommand w).1 with
  | ok output => exact nofun
  | error f => cases hk : f.kind <;> simp [deletion, hk, Error.ofCommand_ne_timeout]

/-- Only the wait for the absence can use up its time, so it has begun, and it has failed. -/
theorem awaitAbsence_of_timeout
    (timeout : (h.clear policy w).1.1 = .error (.timeout what elapsed last)) :
    deleted (Action.issue h.deleteCommand w).1 ≠ [] ∧
      (h.awaitAbsence policy (h.delete w).2).1.1.isSuccess = false := by
  rw [clear_result] at timeout
  cases found : (h.delete w).1.1 with
  | error cause =>
    rw [found] at timeout
    exact absurd (found.trans timeout) delete_ne_timeout
  | ok =>
    rw [found] at timeout
    refine ⟨(h.delete_ok_iff w).mp found, ?_⟩
    cases outcome : (h.awaitAbsence policy (h.delete w).2).1.1 with
    | success value => rw [outcome] at timeout; cases timeout
    | timedOut elapsed last => rfl
    | fatal cause => rfl

/-- When the time for clearing is used up, the handle is in doubt about an object whose deletion was
accepted. It takes an object for gone that the delete command did not find. -/
theorem clear_of_timeout
    (timeout : (h.clear policy w).1.1 = .error (.timeout what elapsed last)) :
    (∃ output, (Action.issue h.deleteCommand w).1 = .ok output) ∧
        (h.clear policy w).1.2.lifecycle = .indeterminate ∨
      (∃ f, (Action.issue h.deleteCommand w).1 = .error f ∧
          (f.kind = .notFound ∨ f.kind = .unknownKind)) ∧
        (h.clear policy w).1.2.lifecycle = .gone := by
  obtain ⟨found, lingers⟩ := awaitAbsence_of_timeout timeout
  have handle : (h.clear policy w).1.2 =
      h.noteAll (deleted (Action.issue h.deleteCommand w).1 ++ [.waitFailed]) := by
    rw [clear_handle, Operation.events, if_neg found, waited, lingers]
    rfl
  rw [handle]
  cases answer : (Action.issue h.deleteCommand w).1 with
  | ok output => exact .inl ⟨⟨output, rfl⟩, rfl⟩
  | error f =>
    rw [answer] at found
    have absent : f.kind = .notFound ∨ f.kind = .unknownKind := by
      by_contra other
      exact found (if_neg other)
    refine .inr ⟨⟨f, rfl, absent⟩, ?_⟩
    rw [deleted, if_pos absent]
    rfl

end Timeout

/-- A cluster that knows no object when it is to delete it and shows it to every look of the wait
that follows: the handle is sure that the object is gone. -/
theorem clear_lingers_gone :
    let h : Handle := ⟨⟨.admin, false⟩, ⟨"widget", some "t1", "w1"⟩, .present⟩
    let w : World Rehearsal.Script :=
      { now := 0, cancelAt := none, log := [], files := .blank, names := .ofSeed 0 8
        cluster := ⟨[{ verb := some "delete", reply := ⟨.error .absent, false⟩ },
          { verb := some "get", reply := ⟨.ok "widget.example.com/w1", false⟩ }]⟩ }
    let cleared := (h.clear (.ofSecs 1 2) w).1
    cleared.1 = .error (.timeout "<Kind: widget, Name: w1, Namespace: t1> to be gone"
        (Policy.ofSecs 1 2).timeout "still present as widget.example.com/w1") ∧
      cleared.2.lifecycle = .gone ∧ cleared.2.lifecycle.isSettled = true := by
  decide +kernel

end Handle

end Settle
