import Settle.Proofs.Session.Issued
import Settle.Proofs.Session.Origin

/-!
# Commands about one object

A handle issues a few kinds of commands about its object; `Handle.Operation.commands` tells which of
them an operation may issue. Nothing else is issued but what deploys a template, so whatever holds
of these commands holds of all that an operation issues (`Handle.Operation.run_issuesOnly`).
-/

namespace Settle.Handle

/-- A command about one object, with what it says besides. -/
inductive Command where
  | name
  | projection (p : Projection)
  | json
  | logs (container : Option String)
  | delete
  | patch (kind : PatchKind) (body : Json.Value)
  | scale (replicas : Nat)

def Command.invocation : Command → Handle → Invocation
  | name, h => h.object.nameQuery h.client
  | projection p, h => h.object.projectionQuery h.client p
  | json, h => h.object.jsonQuery h.client
  | logs container, h => h.object.logsQuery h.client container
  | delete, h => h.deleteCommand
  | patch kind body, h => h.patchCommand kind body
  | scale replicas, h => h.scaleCommand replicas

namespace Operation

def commands : Operation → List Command
  | isPresent | awaitPresence _ | awaitAbsence _ => [.name]
  | delete => [.delete]
  | clear _ => [.delete, .name]
  | read p | awaitField p _ _ => [.projection p]
  | logs container | awaitLogLine _ container _ => [.logs container]
  | awaitReady _ _ => [.projection ObjectRef.readyReplicas]
  | awaitRollout _ => [.json]
  | patch kind body => [.patch kind body]
  | scale replicas => [.scale replicas]
  | applyTemplate _ _ _ => []
  | applyTemplateAndAwait _ _ _ _ => [.name]

/-- The commands with which an operation deploys a template, if it does, meet `P`. -/
def DeploysBy (P : Invocation → Prop) (c : Client) : Operation → Prop
  | applyTemplate e t _ | applyTemplateAndAwait e t _ _ =>
    e.ExpandsBy P t ∧ ∀ path, P (c.handing .apply path)
  | isPresent | awaitPresence _ | awaitAbsence _ | delete | clear _ | read _ | logs _
  | awaitField _ _ _ | awaitReady _ _ | awaitRollout _ | awaitLogLine _ _ _ | patch _ _
  | scale _ => True

end Operation

variable {σ : Type} [Cluster σ] {P : Invocation → Prop}

theorem awaitPresence_issuesOnly (h : Handle) (policy : Policy)
    (about : P (h.object.nameQuery h.client)) :
    (h.awaitPresence (σ := σ) policy).IssuesOnly P :=
  .bind (h.client.await_issuesOnly _ policy about) fun _ => .pure _

theorem awaitAbsence_issuesOnly (h : Handle) (policy : Policy)
    (about : P (h.object.nameQuery h.client)) :
    (h.awaitAbsence (σ := σ) policy).IssuesOnly P :=
  .bind (h.client.await_issuesOnly _ policy about) fun _ => .pure _

theorem applyTemplate_issuesOnly (h : Handle) (e : Engine) (t : Template) (retry : Policy)
    (expands : e.ExpandsBy P t) (hands : ∀ path, P (h.client.handing .apply path)) :
    (h.applyTemplate (σ := σ) e t retry).IssuesOnly P := by
  refine .bind (h.client.submitTemplate_issuesOnly expands hands retry) fun result => ?_
  cases result <;> exact .pure _

theorem Operation.run_issuesOnly (op : Operation) (h : Handle)
    (about : ∀ x ∈ op.commands, P (x.invocation h)) (deploys : op.DeploysBy P h.client) :
    (op.run (σ := σ) h).IssuesOnly P := by
  cases op with
  | isPresent =>
    have query : P (h.object.nameQuery h.client) := about .name List.mem_cons_self
    exact .bind (.bind (.issue query) fun _ => .pure _) fun _ => .pure _
  | awaitPresence policy => exact h.awaitPresence_issuesOnly policy (about _ List.mem_cons_self)
  | awaitAbsence policy => exact h.awaitAbsence_issuesOnly policy (about _ List.mem_cons_self)
  | delete =>
    have command : P h.deleteCommand := about .delete List.mem_cons_self
    exact .bind (.issue command) fun _ => .pure _
  | clear policy =>
    have command : P h.deleteCommand := about .delete List.mem_cons_self
    have query : P (h.object.nameQuery h.client) :=
      about .name (List.mem_cons_of_mem _ List.mem_cons_self)
    refine .bind_of (Q := fun a => a.2.client = h.client ∧ a.2.object = h.object)
      (.bind (.issue command) fun _ => .pure _)
      (fun w => ⟨Operation.run_client .delete h w, Operation.run_object .delete h w⟩) ?_
    rintro ⟨cause | ⟨⟩, h'⟩ ⟨client, object⟩
    · exact .pure _
    · dsimp only at client object
      rw [← client, ← object] at query
      exact .bind (h'.awaitAbsence_issuesOnly policy query) fun _ => .pure _
  | read p =>
    have query : P (h.object.projectionQuery h.client p) := about (.projection p) List.mem_cons_self
    exact .bind (.bind (.issue query) fun _ => .pure _) fun _ => .pure _
  | logs container =>
    have query : P (h.object.logsQuery h.client container) :=
      about (.logs container) List.mem_cons_self
    exact .bind (.bind (.issue query) fun _ => .pure _) fun _ => .pure _
  | awaitField p expected policy =>
    exact .bind (h.client.await_issuesOnly _ policy (about (.projection p) List.mem_cons_self))
      fun _ => .pure _
  | awaitReady expected policy =>
    exact .bind (h.client.await_issuesOnly _ policy
      (about (.projection ObjectRef.readyReplicas) List.mem_cons_self)) fun _ => .pure _
  | awaitRollout policy =>
    refine .bind ?_ fun _ => .pure _
    unfold Handle.awaitRollout
    split
    · exact h.client.await_issuesOnly _ policy (about .json List.mem_cons_self)
    · exact .pure _
  | awaitLogLine regex container policy =>
    exact .bind (h.client.await_issuesOnly _ policy (about (.logs container) List.mem_cons_self))
      fun _ => .pure _
  | patch kind body =>
    have command : P (h.patchCommand kind body) := about (.patch kind body) List.mem_cons_self
    exact .bind (.bind (.bind (.issue command) fun _ => .pure _) fun _ => .pure _) fun _ => .pure _
  | scale replicas =>
    have command : P (h.scaleCommand replicas) := about (.scale replicas) List.mem_cons_self
    exact .bind (.bind (.bind (.issue command) fun _ => .pure _) fun _ => .pure _) fun _ => .pure _
  | applyTemplate e t retry => exact h.applyTemplate_issuesOnly e t retry deploys.1 deploys.2
  | applyTemplateAndAwait e t retry presence =>
    have query : P (h.object.nameQuery h.client) := about .name List.mem_cons_self
    refine .bind_of (Q := fun a => a.2.client = h.client ∧ a.2.object = h.object)
      (h.applyTemplate_issuesOnly e t retry deploys.1 deploys.2)
      (fun w => ⟨Operation.run_client (.applyTemplate e t retry) h w,
        Operation.run_object (.applyTemplate e t retry) h w⟩) ?_
    rintro ⟨cause | m, h'⟩ ⟨client, object⟩
    · exact .pure _
    · dsimp only at client object
      rw [← client, ← object] at query
      exact .bind (h'.awaitPresence_issuesOnly presence query) fun _ => .pure _

end Settle.Handle
