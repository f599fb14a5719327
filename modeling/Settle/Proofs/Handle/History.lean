import Settle.Proofs.Handle.Operation

/-!
# What a lifecycle remembers

Of the events of a session a lifecycle remembers the last one that is definite, and whether a wait
for presence or absence has failed since (`Lifecycle.Recalls`). An operation teaches a handle the
events that its results stand for (`Handle.Operation.run_handle`), and a session those of its
operations in order (`Handle.session_lifecycle`).
-/

namespace Settle

namespace Lifecycle

/-- What is believed when the last definite event was `e` and `fails` waits have failed since. A
sighting or an absence outlasts failed waits; an object that was coming or going is in doubt after
the first one. -/
def after (e : LifecycleEvent) (fails : Nat) : Lifecycle :=
  match e with
  | .appeared => .present
  | .vanished => .gone
  | .submitted => if fails = 0 then .pending else .indeterminate
  | .deleteIssued => if fails = 0 then .deleting else .indeterminate
  | .waitFailed => .unknown

/-- The state fits the past events, the latest one last. -/
def Recalls (past : List LifecycleEvent) (s : Lifecycle) : Prop :=
  (∀ e ∈ past, e = .waitFailed) ∧ s = .unknown ∨
    ∃ before e fails, past = before ++ e :: List.replicate fails .waitFailed ∧
      e ≠ .waitFailed ∧ s = after e fails

theorem Recalls.nil : Recalls [] .unknown := .inl ⟨fun _ he => (List.not_mem_nil he).elim, rfl⟩

theorem after_advance_waitFailed {e : LifecycleEvent} (he : e ≠ .waitFailed) (fails : Nat) :
    (after e fails).advance .waitFailed = after e (fails + 1) := by
  cases e with
  | submitted => unfold after; by_cases hf : fails = 0 <;> simp [hf, advance]
  | deleteIssued => unfold after; by_cases hf : fails = 0 <;> simp [hf, advance]
  | waitFailed => exact absurd rfl he
  | appeared | vanished => rfl

/-- A definite event makes all that came before it forgotten. -/
theorem advance_of_definite {e : LifecycleEvent} (he : e ≠ .waitFailed) (s : Lifecycle) :
    s.advance e = after e 0 := by
  cases e with
  | waitFailed => exact absurd rfl he
  | submitted | appeared | deleteIssued | vanished => cases s <;> rfl

theorem Recalls.advance {past : List LifecycleEvent} {s : Lifecycle} (h : Recalls past s)
    (e : LifecycleEvent) : Recalls (past ++ [e]) (s.advance e) := by
  by_cases he : e = .waitFailed
  · subst he
    rcases h with ⟨all, rfl⟩ | ⟨before, d, fails, rfl, hd, rfl⟩
    · refine .inl ⟨fun e he => ?_, rfl⟩
      rcases List.mem_append.mp he with he | he
      · exact all e he
      · exact List.mem_singleton.mp he
    · refine .inr ⟨before, d, fails + 1, ?_, hd, after_advance_waitFailed hd fails⟩
      rw [List.replicate_succ', List.append_assoc, List.cons_append]
  · exact .inr ⟨past, e, 0, rfl, he, advance_of_definite he s⟩

theorem Recalls.foldl {past : List LifecycleEvent} {s : Lifecycle} (h : Recalls past s)
    (events : List LifecycleEvent) :
    Recalls (past ++ events) (events.foldl Lifecycle.advance s) := by
  induction events generalizing past s with
  | nil => rw [List.append_nil]; exact h
  | cons e events ih =>
    have hn := ih (h.advance e)
    rw [List.append_assoc] at hn
    exact hn

theorem foldl_replicate {e : LifecycleEvent} (he : e ≠ .waitFailed) (fails : Nat) :
    (List.replicate fails .waitFailed).foldl Lifecycle.advance (after e 0) = after e fails := by
  induction fails with
  | zero => rfl
  | succ fails ih =>
    rw [List.replicate_succ', List.foldl_append, ih]
    exact after_advance_waitFailed he fails

theorem foldl_of_all {past : List LifecycleEvent} (all : ∀ e ∈ past, e = .waitFailed) :
    past.foldl Lifecycle.advance .unknown = .unknown := by
  induction past with
  | nil => rfl
  | cons e past ih =>
    obtain rfl := all e List.mem_cons_self
    exact ih fun e he => all e (List.mem_cons_of_mem _ he)

/-- Exactly one state fits the past: the one that the events lead to from the start. -/
theorem recalls_iff {past : List LifecycleEvent} {s : Lifecycle} :
    Recalls past s ↔ past.foldl Lifecycle.advance .unknown = s := by
  constructor
  · rintro (⟨all, rfl⟩ | ⟨before, e, fails, rfl, he, rfl⟩)
    · exact foldl_of_all all
    · rw [List.foldl_append, List.foldl_cons, advance_of_definite he]
      exact foldl_replicate he fails
  · rintro rfl
    exact Recalls.nil.foldl past

end Lifecycle

namespace Handle

def waited (success : LifecycleEvent) (outcome : Outcome Unit) : LifecycleEvent :=
  if outcome.isSuccess then success else .waitFailed

/-- What the answer to a delete command stands for. An object that is not there, or whose kind is
not known, is absent. -/
def deleted : Except CommandFailure String → List LifecycleEvent
  | .ok _ => [.deleteIssued]
  | .error f => if f.kind = .notFound ∨ f.kind = .unknownKind then [.vanished] else []

def submitted : Except Error Manifest → List LifecycleEvent
  | .ok _ => [.submitted]
  | .error _ => []

variable {σ : Type} [Cluster σ]

/-- The events that the results of an operation stand for. A deletion that failed is not waited for,
nor is a submission that failed; all that does not submit, delete or wait for presence or absence
stands for nothing. -/
def Operation.events (h : Handle) (w : World σ) : Operation → List LifecycleEvent
  | awaitPresence policy => [waited .appeared (h.awaitPresence policy w).1.1]
  | awaitAbsence policy => [waited .vanished (h.awaitAbsence policy w).1.1]
  | delete => deleted (Action.issue h.deleteCommand w).1
  | clear policy =>
    let first := deleted (Action.issue h.deleteCommand w).1
    if first = [] then []
    else first ++ [waited .vanished (h.awaitAbsence policy (h.delete w).2).1.1]
  | applyTemplate e t retry => submitted (h.applyTemplate e t retry w).1.1
  | applyTemplateAndAwait e t retry presence =>
    let first := submitted (h.applyTemplate e t retry w).1.1
    if first = [] then []
    else first ++ [waited .appeared (h.awaitPresence presence (h.applyTemplate e t retry w).2).1.1]
  | isPresent | read _ | logs _ | awaitField _ _ _ | awaitReady _ _ | awaitRollout _
  | awaitLogLine _ _ _ | patch _ _ | scale _ => []

/-- The handle after some events. -/
def noteAll (h : Handle) (events : List LifecycleEvent) : Handle :=
  { h with lifecycle := events.foldl Lifecycle.advance h.lifecycle }

theorem noteAll_append (h : Handle) (events more : List LifecycleEvent) :
    h.noteAll (events ++ more) = (h.noteAll events).noteAll more := by
  unfold noteAll
  rw [List.foldl_append]

theorem awaitPresence_handle (h : Handle) (policy : Policy) (w : World σ) :
    (h.awaitPresence policy w).1.2 = h.noteAll [waited .appeared (h.awaitPresence policy w).1.1] :=
  rfl

theorem awaitAbsence_handle (h : Handle) (policy : Policy) (w : World σ) :
    (h.awaitAbsence policy w).1.2 = h.noteAll [waited .vanished (h.awaitAbsence policy w).1.1] :=
  rfl

theorem delete_handle (h : Handle) (w : World σ) :
    (h.delete w).1.2 = h.noteAll (deleted (Action.issue h.deleteCommand w).1) := by
  show (h.deletion (Action.issue h.deleteCommand w).1).2 = _
  cases (Action.issue h.deleteCommand w).1 with
  | ok output => rfl
  | error f => cases hk : f.kind <;> simp [deletion, deleted, hk, noteAll, note]

theorem applyTemplate_handle (h : Handle) (e : Engine) (t : Template) (retry : Policy)
    (w : World σ) :
    (h.applyTemplate e t retry w).1.2 =
      h.noteAll (submitted (h.applyTemplate e t retry w).1.1) := by
  unfold applyTemplate
  simp only [Action.bind_apply]
  cases (h.client.applyTemplate e t retry w).1 <;> rfl

theorem delete_ok_iff (h : Handle) (w : World σ) :
    (h.delete w).1.1 = .ok () ↔ deleted (Action.issue h.deleteCommand w).1 ≠ [] := by
  show (h.deletion (Action.issue h.deleteCommand w).1).1 = _ ↔ _
  cases (Action.issue h.deleteCommand w).1 with
  | ok output => simp [deletion, deleted]
  | error f => cases hk : f.kind <;> simp [deletion, deleted, hk]

theorem clear_handle (h : Handle) (policy : Policy) (w : World σ) :
    (h.clear policy w).1.2 = h.noteAll (Operation.events h w (.clear policy)) := by
  have handle := h.delete_handle w
  have succeeds := h.delete_ok_iff w
  unfold Operation.events clear
  simp only [Action.bind_apply]
  rcases hd : h.delete w with ⟨⟨cause | ⟨⟩, h'⟩, w'⟩
  · rw [hd] at handle succeeds
    have none : deleted (Action.issue h.deleteCommand w).1 = [] :=
      Classical.not_not.mp fun some => by cases succeeds.mpr some
    rw [if_pos none]
    rw [none] at handle
    exact handle
  · rw [hd] at handle succeeds
    obtain rfl : h' = _ := handle
    rw [if_neg (succeeds.mp rfl), noteAll_append]
    exact awaitAbsence_handle _ policy w'

theorem applyTemplateAndAwait_handle (h : Handle) (e : Engine) (t : Template)
    (retry presence : Policy) (w : World σ) :
    (h.applyTemplateAndAwait e t retry presence w).1.2 =
      h.noteAll (Operation.events h w (.applyTemplateAndAwait e t retry presence)) := by
  have handle := h.applyTemplate_handle e t retry w
  unfold Operation.events applyTemplateAndAwait
  simp only [Action.bind_apply]
  rcases ha : h.applyTemplate e t retry w with ⟨⟨cause | m, h'⟩, w'⟩
  · rw [ha] at handle
    exact handle
  · rw [ha] at handle
    obtain rfl : h' = h.noteAll (submitted (.ok m)) := handle
    show ((h.noteAll [.submitted]).awaitPresence presence w').1.2 =
      h.noteAll ([.submitted] ++ [waited .appeared (h.awaitPresence presence w').1.1])
    rw [noteAll_append]
    exact awaitPresence_handle _ presence w'

/-- An operation teaches the handle the events that its results stand for, and nothing else. -/
theorem Operation.run_handle (op : Operation) (h : Handle) (w : World σ) :
    (op.run h w).1.2 = h.noteAll (op.events h w) := by
  cases op with
  | awaitPresence policy => exact h.awaitPresence_handle policy w
  | awaitAbsence policy => exact h.awaitAbsence_handle policy w
  | delete => exact h.delete_handle w
  | clear policy => exact h.clear_handle policy w
  | applyTemplate e t retry => exact h.applyTemplate_handle e t retry w
  | applyTemplateAndAwait e t retry presence =>
    exact h.applyTemplateAndAwait_handle e t retry presence w
  | isPresent | read _ | logs _ | awaitField _ _ _ | awaitReady _ _ | awaitRollout _
  | awaitLogLine _ _ _ | patch _ _ | scale _ => rfl

def history : List (Step σ) → Handle → World σ → List LifecycleEvent
  | [], _, _ => []
  | .operation op :: rest, h, w =>
    op.events h w ++ history rest (op.run h w).1.2 (op.run h w).2
  | .meanwhile change :: rest, h, w => history rest h (change w)

theorem session_handle (steps : List (Step σ)) (h : Handle) (w : World σ) :
    (session steps h w).1 = h.noteAll (history steps h w) := by
  induction steps generalizing h w with
  | nil => rfl
  | cons step rest ih =>
    cases step with
    | operation op =>
      unfold history
      rw [noteAll_append, ← op.run_handle]
      exact ih (op.run h w).1.2 (op.run h w).2
    | meanwhile change => exact ih h (change w)

/-- After a session on a fresh handle, whatever the cluster answers and whenever the session is
cancelled, the lifecycle is the one that the last definite event and the failed waits after it
determine. -/
theorem session_lifecycle (c : Client) (o : ObjectRef) (steps : List (Step σ)) (w : World σ)
    (s : Lifecycle) :
    (session steps ⟨c, o, .unknown⟩ w).1.lifecycle = s ↔
      Lifecycle.Recalls (history steps ⟨c, o, .unknown⟩ w) s := by
  rw [session_handle, Lifecycle.recalls_iff]
  rfl

end Handle

end Settle
