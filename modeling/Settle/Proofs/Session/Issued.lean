import Settle.Proofs.Deployment

/-!
# The commands that an action issues

`World.Issued` tells the commands between two worlds, in order, from the log. `Action.IssuesOnly P`
says that all commands of an action meet `P`, wherever it begins. It passes from the looks of a wait
to the whole wait (`Pace.await_issuesOnly`), and from the attempts to expand a template to all that
comes before the hand-over (`Client.expanded_issuesOnly`).
-/

namespace Settle

variable {σ α β δ : Type} {P : Invocation → Prop}

/-- These commands, in this order, were issued between two worlds. -/
def World.Issued (w w' : World σ) (commands : List Invocation) : Prop :=
  w'.log = commands.reverse ++ w.log

namespace World.Issued

variable {w w' w'' : World σ}

theorem nil (h : w'.log = w.log) : w.Issued w' [] := h

theorem trans {xs ys : List Invocation} (h : w.Issued w' xs) (h' : w'.Issued w'' ys) :
    w.Issued w'' (xs ++ ys) := by
  unfold Issued at *
  rw [h', h, List.reverse_append, List.append_assoc]

theorem issue [Cluster σ] (i : Invocation) (w : World σ) :
    w.Issued (Action.issue i w).2 [i] := Action.issue_log i w

end World.Issued

namespace Action

/-- All commands of the action meet `P`. -/
def IssuesOnly (P : Invocation → Prop) (x : Action σ α) : Prop :=
  ∀ w : World σ, ∃ commands, w.Issued (x w).2 commands ∧ ∀ i ∈ commands, P i

namespace IssuesOnly

theorem of_log {x : Action σ α} (h : ∀ w, (x w).2.log = w.log) : x.IssuesOnly P :=
  fun w => ⟨[], .nil (h w), fun _ hi => (List.not_mem_nil hi).elim⟩

theorem pure (a : α) : (Pure.pure a : Action σ α).IssuesOnly P := of_log fun _ => rfl

theorem get : (MonadState.get : Action σ (World σ)).IssuesOnly P := of_log fun _ => rfl

theorem mono {P' : Invocation → Prop} {x : Action σ α} (hx : x.IssuesOnly P)
    (h : ∀ i, P i → P' i) : x.IssuesOnly P' := fun w =>
  let ⟨commands, issued, all⟩ := hx w
  ⟨commands, issued, fun i hi => h i (all i hi)⟩

theorem bind_of {Q : α → Prop} {x : Action σ α} {f : α → Action σ β} (hx : x.IssuesOnly P)
    (result : ∀ w, Q (x w).1) (hf : ∀ a, Q a → (f a).IssuesOnly P) : (x >>= f).IssuesOnly P := by
  intro w
  obtain ⟨xs, hxs, first⟩ := hx w
  obtain ⟨ys, hys, second⟩ := hf (x w).1 (result w) (x w).2
  refine ⟨xs ++ ys, hxs.trans hys, fun i hi => ?_⟩
  rcases List.mem_append.mp hi with hi | hi
  · exact first i hi
  · exact second i hi

theorem bind {x : Action σ α} {f : α → Action σ β} (hx : x.IssuesOnly P)
    (hf : ∀ a, (f a).IssuesOnly P) : (x >>= f).IssuesOnly P :=
  bind_of (Q := fun _ => True) hx (fun _ => trivial) fun a _ => hf a

theorem issue [Cluster σ] {i : Invocation} (hi : P i) :
    (Action.issue i : Action σ _).IssuesOnly P :=
  fun w => ⟨[i], .issue i w, fun j hj => by rw [List.mem_singleton.mp hj]; exact hi⟩

end IssuesOnly

end Action

open Settle.Action (IssuesOnly)

namespace Pace

theorem tick_log (p : Pace) (start : Duration) (w : World σ) : (p.tick start w).2.log = w.log := by
  rw [tick_apply]
  split
  · rfl
  · unfold Action.pauseFor
    cases (if p.heedsCancel then w.wakeUp (p.pauseAfter (w.now - start)) else none) <;> rfl

theorem lookOnce_issuesOnly (p : Pace) (what : String) (start : Duration)
    {look : Action σ (Verdict α)} (h : look.IssuesOnly P) :
    (p.lookOnce what start look).IssuesOnly P := by
  refine .bind .get fun w => ?_
  split
  · exact .pure _
  · refine .bind h fun verdict => ?_
    cases verdict with
    | converged value => exact .pure _
    | fatal cause => exact .pure _
    | notYet seen =>
      refine .bind (.of_log (p.tick_log start)) fun tick => ?_
      cases tick with
      | retry => exact .pure _
      | expired => exact .bind .get fun _ => .pure _
      | cancelled => exact .pure _

theorem await_issuesOnly (p : Pace) (what : String) {look : Action σ (Verdict α)}
    (h : look.IssuesOnly P) : (p.await what look).IssuesOnly P := by
  refine .bind .get fun w => ?_
  generalize p.policy.pauses = n
  induction n with
  | zero =>
    refine .bind (p.lookOnce_issuesOnly what w.now h) fun turn => ?_
    cases turn with
    | ended outcome => exact .pure _
    | again seen => exact .bind .get fun _ => .pure _
  | succ n ih =>
    refine .bind (p.lookOnce_issuesOnly what w.now h) fun turn => ?_
    cases turn with
    | ended outcome => exact .pure _
    | again seen => exact ih

theorem prepareOnce_issuesOnly (p : Pace) (start : Duration) {make : Action σ (Except Error δ)}
    (h : make.IssuesOnly P) : (p.prepareOnce start make).IssuesOnly P := by
  refine .bind .get fun w => ?_
  split
  · exact .pure _
  · refine .bind h fun result => ?_
    cases result with
    | ok document => exact .pure _
    | error e =>
      dsimp only
      split
      · refine .bind (.of_log (p.tick_log start)) fun tick => ?_
        cases tick <;> exact .pure _
      · exact .pure _

theorem prepareFrom_issuesOnly (p : Pace) (start : Duration) {make : Action σ (Except Error δ)}
    (h : make.IssuesOnly P) (n : Nat) : (p.prepareFrom start make n).IssuesOnly P := by
  induction n with
  | zero =>
    refine .bind (p.prepareOnce_issuesOnly start h) fun turn => ?_
    cases turn <;> exact .pure _
  | succ n ih =>
    refine .bind (p.prepareOnce_issuesOnly start h) fun turn => ?_
    cases turn with
    | ended result => exact .pure _
    | again e => exact ih

end Pace

theorem Client.await_issuesOnly [Cluster σ] (c : Client) (x : Watch α) (policy : Policy)
    (h : P x.query) : (c.await (σ := σ) x policy).IssuesOnly P :=
  (c.pace policy).await_issuesOnly x.goal (.bind (.issue h) fun _ => .pure _)

theorem Scratch.write_log (root stem extension contents : String) (w : World σ) :
    (Scratch.write root stem extension contents w).2.log = w.log := by
  obtain ⟨files, names, frame⟩ := Scratch.write_frame root stem extension contents w
  rw [frame]

section Cluster

variable [Cluster σ]

/-- Expanding a template issues no command that does not meet `P`. -/
def Engine.ExpandsBy (P : Invocation → Prop) (e : Engine) (t : Template) : Prop :=
  ∀ d ignoreUnknown, e.expander = .process d ignoreUnknown → P (t.query d ignoreUnknown)

theorem Engine.document_issuesOnly {e : Engine} {t : Template} (h : e.ExpandsBy P t) :
    (e.document (σ := σ) t).IssuesOnly P := by
  unfold Engine.document
  cases he : e.expander with
  | substitution => exact .bind .get fun _ => .pure _
  | process d ignoreUnknown =>
    refine .bind .get fun w => ?_
    split
    · exact .pure _
    · refine .bind (.issue (h d ignoreUnknown he)) fun answer => ?_
      cases answer <;> exact .pure _

theorem Engine.expand_issuesOnly {e : Engine} {t : Template} (h : e.ExpandsBy P t) :
    (e.expand (σ := σ) t).IssuesOnly P := by
  refine .bind (document_issuesOnly h) fun result => ?_
  cases result with
  | error cause => exact .pure _
  | ok found =>
    refine .bind (.of_log (Scratch.write_log _ _ _ _)) fun written => ?_
    cases written <;> exact .pure _

/-- The manifest that a client gets out of a template, or why it gets none. -/
def Client.expanded (c : Client) (e : Engine) (t : Template) (retry : Policy) :
    Action σ (Except Error Manifest) := fun w =>
  (c.pace retry).prepareFrom w.now (e.expand t) (c.pace retry).policy.pauses w

theorem Client.expanded_issuesOnly (c : Client) {e : Engine} {t : Template} (h : e.ExpandsBy P t)
    (retry : Policy) : (c.expanded (σ := σ) e t retry).IssuesOnly P := fun w =>
  (c.pace retry).prepareFrom_issuesOnly w.now (Engine.expand_issuesOnly h) _ w

/-- A submission expands its template and hands over what it has got. -/
theorem Client.submitTemplate_eq (c : Client) (verb : Verb) (e : Engine) (t : Template)
    (retry : Policy) (w : World σ) :
    c.submitTemplate verb e t retry w =
      c.handOver verb (c.expanded e t retry w).1 (c.expanded e t retry w).2 := by
  unfold submitTemplate Pace.submit expanded
  simp only [Action.bind_apply, Action.get_apply]
  rcases (c.pace retry).prepareFrom w.now (e.expand t) (c.pace retry).policy.pauses w with
    ⟨_ | m, v⟩ <;> rfl

theorem Client.submitTemplate_issuesOnly (c : Client) {verb : Verb} {e : Engine} {t : Template}
    (expands : e.ExpandsBy P t) (hands : ∀ path, P (c.handing verb path)) (retry : Policy) :
    (c.submitTemplate (σ := σ) verb e t retry).IssuesOnly P := by
  rw [show c.submitTemplate (σ := σ) verb e t retry = c.expanded e t retry >>= c.handOver verb from
    funext (c.submitTemplate_eq verb e t retry)]
  refine .bind (c.expanded_issuesOnly expands retry) fun result => ?_
  cases result with
  | error cause => exact .pure _
  | ok m =>
    refine .bind (.bind (.issue (hands m.path)) fun answer => ?_) fun _ => .pure _
    cases answer <;> exact .pure _

end Cluster

end Settle
