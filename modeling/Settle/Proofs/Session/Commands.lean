import Mathlib.Data.List.Forall2
import Settle.Proofs.Handle.Commands

/-!
# The commands of a session

`Call.Accounts` says which commands a call may issue, in which order: what changes the cluster is
issued at most once, whatever the answers are, and what is looped over only reads, or expands a
template. `Session.commands_accounted` puts the commands of all calls of a session together to what
its log has gained.
-/

namespace Settle

variable {σ α : Type}

def Invocation.Reads (i : Invocation) : Prop := i.verb = .get ∨ i.verb = .logs

variable [Cluster σ]

/-! ## What calls may issue -/

/-- The commands of a submission that begins in `w`: some that expand the template, and then one
that hands the manifest over, unless the expansion has failed. -/
def Client.Submits (c : Client) (verb : Verb) (e : Engine) (t : Template) (retry : Policy)
    (w : World σ) (commands : List Invocation) : Prop :=
  ∃ expansions : List Invocation, (∀ i ∈ expansions, i.verb = .process) ∧
    commands = expansions ++
      match (c.expanded e t retry w).1 with
      | .error _ => []
      | .ok m => [c.handing verb m.path]

/-- The commands of an operation on a client that begins in `w`. -/
def Client.Operation.Accounts (c : Client) (w : World σ) (commands : List Invocation) :
    Operation → Prop
  | command verb scope args => commands = [c.command verb scope args]
  | applyManifest m => commands = [c.handing .apply m.path]
  | applyTemplate e t retry => c.Submits .apply e t retry w commands
  | createFromTemplate e t retry => c.Submits .create e t retry w commands

/-- The commands of an operation on a handle that begins in `w`. A deletion, and a submission, that
is to be waited for is followed by queries, but not when it failed. -/
def Handle.Operation.Accounts (h : Handle) (w : World σ) (commands : List Invocation) :
    Operation → Prop
  | delete => commands = [h.deleteCommand]
  | clear _ => ∃ queries : List Invocation, (∀ i ∈ queries, i.verb = .get) ∧
      commands = h.deleteCommand :: queries ∧ ∀ e, (h.delete w).1.1 = .error e → queries = []
  | patch kind body => commands = [h.patchCommand kind body]
  | scale replicas => commands = [h.scaleCommand replicas]
  | applyTemplate e t retry => h.client.Submits .apply e t retry w commands
  | applyTemplateAndAwait e t retry _ => ∃ submission queries : List Invocation,
      h.client.Submits .apply e t retry w submission ∧ (∀ i ∈ queries, i.verb = .get) ∧
      commands = submission ++ queries ∧
      ∀ cause, (h.client.applyTemplate e t retry w).1 = .error cause → queries = []
  | isPresent | awaitPresence _ | awaitAbsence _ | read _ | logs _ | awaitField _ _ _
  | awaitReady _ _ | awaitRollout _ | awaitLogLine _ _ _ => ∀ i ∈ commands, i.Reads

/-- The commands of a call that begins in `w`, in order. -/
def Call.Accounts (w : World σ) (commands : List Invocation) : Call → Prop
  | client c op => op.Accounts c w commands
  | handle h op => op.Accounts h w commands
  | set _ _ => ∀ i ∈ commands, i.Reads

/-! ## At most one change -/

/-- How many of the commands may change the cluster. -/
def mutations (commands : List Invocation) : Nat := commands.countP (·.verb.mutates)

theorem mutations_append (xs ys : List Invocation) :
    mutations (xs ++ ys) = mutations xs + mutations ys := List.countP_append

theorem mutations_singleton_le (i : Invocation) : mutations [i] ≤ 1 := List.countP_le_length

theorem mutations_eq_zero {commands : List Invocation}
    (h : ∀ i ∈ commands, i.verb = .get ∨ i.verb = .logs ∨ i.verb = .process) :
    mutations commands = 0 := by
  refine List.countP_eq_zero.mpr fun i hi => ?_
  rcases h i hi with hv | hv | hv <;> rw [hv] <;> decide

theorem Client.Submits.mutations_le {c : Client} {verb : Verb} {e : Engine} {t : Template}
    {retry : Policy} {w : World σ} {commands : List Invocation}
    (h : c.Submits verb e t retry w commands) : mutations commands ≤ 1 := by
  obtain ⟨expansions, expand, rfl⟩ := h
  rw [mutations_append, mutations_eq_zero fun i hi => .inr (.inr (expand i hi)), Nat.zero_add]
  cases (c.expanded e t retry w).1 with
  | error cause => exact Nat.zero_le 1
  | ok m => exact mutations_singleton_le _

theorem mutations_le_of_reads {commands : List Invocation} (h : ∀ i ∈ commands, i.Reads) :
    mutations commands ≤ 1 := by
  rw [mutations_eq_zero fun i hi => (h i hi).imp_right .inl]
  exact Nat.zero_le 1

/-- No call changes the cluster twice. -/
theorem Call.Accounts.mutations_le {x : Call} {w : World σ} {commands : List Invocation}
    (h : x.Accounts w commands) : mutations commands ≤ 1 := by
  have one {i : Invocation} (hi : commands = [i]) : mutations commands ≤ 1 := by
    rw [hi]
    exact mutations_singleton_le i
  have followed {before queries : List Invocation} (hb : mutations before ≤ 1)
      (reads : ∀ i ∈ queries, i.verb = .get) : mutations (before ++ queries) ≤ 1 := by
    rw [mutations_append, mutations_eq_zero fun i hi => .inl (reads i hi)]
    exact hb
  cases x with
  | client c op =>
    cases op with
    | command verb scope args => exact one h
    | applyManifest m => exact one h
    | applyTemplate e t retry => exact Client.Submits.mutations_le h
    | createFromTemplate e t retry => exact Client.Submits.mutations_le h
  | set s op => exact mutations_le_of_reads h
  | handle h' op =>
    cases op with
    | delete => exact one h
    | patch kind body => exact one h
    | scale replicas => exact one h
    | clear policy =>
      obtain ⟨queries, reads, rfl, _⟩ := h
      exact followed (mutations_singleton_le h'.deleteCommand) reads
    | applyTemplate e t retry => exact Client.Submits.mutations_le h
    | applyTemplateAndAwait e t retry presence =>
      obtain ⟨submission, queries, submits, reads, rfl, _⟩ := h
      exact followed submits.mutations_le reads
    | _ => exact mutations_le_of_reads h

theorem Client.submitManifest_issued (c : Client) (verb : Verb) (m : Manifest) (w : World σ) :
    w.Issued (c.submitManifest verb m w).2 [c.handing verb m.path] := by
  unfold submitManifest
  rw [Action.bind_apply]
  cases (Action.issue (c.command verb none ["-f", m.path]) w).1 <;> exact .issue _ w

theorem Client.submitTemplate_accounted (c : Client) (verb : Verb) (e : Engine) (t : Template)
    (retry : Policy) (w : World σ) :
    ∃ commands, w.Issued (c.submitTemplate verb e t retry w).2 commands ∧
      c.Submits verb e t retry w commands := by
  have expands : e.ExpandsBy (·.verb = .process) t := fun _ _ _ => rfl
  obtain ⟨expansions, issued, expand⟩ := c.expanded_issuesOnly expands retry w
  refine ⟨_, ?_, expansions, expand, rfl⟩
  rw [submitTemplate_eq]
  cases (c.expanded e t retry w).1 with
  | error cause => exact issued.trans (.nil rfl)
  | ok m =>
    rw [handOver_ok]
    exact issued.trans (.issue _ _)

theorem Client.Operation.run_accounted (op : Operation) (c : Client) (w : World σ) :
    ∃ commands, w.Issued (op.run c w).2 commands ∧ op.Accounts c w commands := by
  cases op with
  | command verb scope args => exact ⟨_, .issue _ w, rfl⟩
  | applyManifest m => exact ⟨_, c.submitManifest_issued .apply m w, rfl⟩
  | applyTemplate e t retry => exact c.submitTemplate_accounted .apply e t retry w
  | createFromTemplate e t retry => exact c.submitTemplate_accounted .create e t retry w

namespace Handle

theorem delete_issued (h : Handle) (w : World σ) : w.Issued (h.delete w).2 [h.deleteCommand] :=
  .issue _ w

theorem clear_accounted (h : Handle) (policy : Policy) (w : World σ) :
    ∃ commands, w.Issued (h.clear policy w).2 commands ∧
      Operation.Accounts h w commands (.clear policy) := by
  have first := h.delete_issued w
  unfold clear
  rw [Action.bind_apply]
  rcases hd : h.delete w with ⟨⟨cause | ⟨⟩, h'⟩, w'⟩
  · rw [hd] at first
    exact ⟨_, first, [], fun _ hi => (List.not_mem_nil hi).elim, rfl, fun _ _ => rfl⟩
  · rw [hd] at first
    obtain ⟨queries, issued, reads⟩ :=
      h'.awaitAbsence_issuesOnly (P := (·.verb = .get)) policy rfl w'
    refine ⟨_, first.trans issued, queries, reads, rfl, fun e he => ?_⟩
    rw [hd] at he
    cases he

theorem applyTemplate_world (h : Handle) (e : Engine) (t : Template) (retry : Policy)
    (w : World σ) : (h.applyTemplate e t retry w).2 = (h.client.applyTemplate e t retry w).2 := by
  unfold applyTemplate
  rw [Action.bind_apply]
  cases (h.client.applyTemplate e t retry w).1 <;> rfl

theorem applyTemplateAndAwait_accounted (h : Handle) (e : Engine) (t : Template)
    (retry presence : Policy) (w : World σ) :
    ∃ commands, w.Issued (h.applyTemplateAndAwait e t retry presence w).2 commands ∧
      Operation.Accounts h w commands (.applyTemplateAndAwait e t retry presence) := by
  obtain ⟨submission, issued, submits⟩ := h.client.submitTemplate_accounted .apply e t retry w
  change w.Issued (h.client.applyTemplate e t retry w).2 submission at issued
  unfold applyTemplateAndAwait applyTemplate
  simp only [Action.bind_apply]
  rcases ha : h.client.applyTemplate e t retry w with ⟨cause | m, w'⟩
  · rw [ha] at issued
    exact ⟨_, issued, submission, [], submits, fun _ hi => (List.not_mem_nil hi).elim,
      (List.append_nil _).symm, fun _ _ => rfl⟩
  · rw [ha] at issued
    obtain ⟨queries, issued', reads⟩ :=
      (h.note .submitted).awaitPresence_issuesOnly (P := (·.verb = .get)) presence rfl w'
    refine ⟨_, issued.trans issued', submission, queries, submits, reads, rfl, fun cause he => ?_⟩
    rw [ha] at he
    cases he

theorem Operation.run_accounted (op : Operation) (h : Handle) (w : World σ) :
    ∃ commands, w.Issued (op.run h w).2 commands ∧ op.Accounts h w commands := by
  have only {α : Type} {x : Action σ α} (hx : x.IssuesOnly Invocation.Reads) := hx w
  cases op with
  | delete => exact ⟨_, h.delete_issued w, rfl⟩
  | clear policy => exact h.clear_accounted policy w
  | patch kind body => exact ⟨_, .issue _ w, rfl⟩
  | scale replicas => exact ⟨_, .issue _ w, rfl⟩
  | applyTemplate e t retry =>
    obtain ⟨commands, issued, submits⟩ := h.client.submitTemplate_accounted .apply e t retry w
    exact ⟨commands, by rw [Operation.run, applyTemplate_world]; exact issued, submits⟩
  | applyTemplateAndAwait e t retry presence =>
    exact h.applyTemplateAndAwait_accounted e t retry presence w
  | isPresent | awaitPresence _ | awaitAbsence _ | read _ | awaitField _ _ _ | awaitReady _ _
  | awaitRollout _ =>
    refine only (Operation.run_issuesOnly _ h (fun x hx => ?_) trivial)
    obtain rfl := List.mem_singleton.mp hx
    exact .inl rfl
  | logs _ | awaitLogLine _ _ _ =>
    refine only (Operation.run_issuesOnly _ h (fun x hx => ?_) trivial)
    obtain rfl := List.mem_singleton.mp hx
    exact .inr rfl

end Handle

theorem ResourceSet.Operation.run_issuesOnly (op : Operation) (s : ResourceSet) :
    (op.run (σ := σ) s).IssuesOnly Invocation.Reads := by
  have names (f : Filter) : (s.names (σ := σ) f).IssuesOnly Invocation.Reads :=
    .bind (.issue (.inl rfl)) fun _ => .pure _
  cases op with
  | names f => exact names f
  | list f => exact .bind (names f) fun _ => .pure _
  | count f => exact .bind (names f) fun _ => .pure _
  | awaitSize f expected policy => exact s.client.await_issuesOnly _ policy (.inl rfl)
  | awaitEmptiness f policy => exact s.client.await_issuesOnly _ policy (.inl rfl)
  | awaitPodsReady f policy => exact s.client.await_issuesOnly _ policy (.inl rfl)

theorem Call.run_accounted (x : Call) (w : World σ) :
    ∃ commands, w.Issued (x.run w).2 commands ∧ x.Accounts w commands := by
  cases x with
  | client c op => exact op.run_accounted c w
  | handle h op => exact op.run_accounted h w
  | set s op => exact op.run_issuesOnly s w

/-- What a session adds to the log of commands are the commands of its calls, call by call, and each
call accounts for its own: whatever the cluster answers and whenever the session is cancelled, no
call issues a command that changes the cluster twice. -/
theorem Session.commands_accounted (s : Session σ) (w : World σ) :
    ∃ issued : List (List Invocation),
      List.Forall₂ (fun begun commands =>
        begun.1.Accounts begun.2 commands ∧ mutations commands ≤ 1) (s.calls w) issued ∧
      w.Issued (s.run w).2 issued.flatten := by
  induction s generalizing w with
  | done => exact ⟨[], .nil, .nil rfl⟩
  | call x next ih =>
    obtain ⟨commands, first, accounts⟩ := x.run_accounted w
    obtain ⟨issued, all, rest⟩ := ih (x.run w).1 (x.run w).2
    exact ⟨commands :: issued, .cons ⟨accounts, accounts.mutations_le⟩ all, first.trans rest⟩
  | meanwhile change keeps next ih =>
    obtain ⟨issued, all, rest⟩ := ih (change w)
    exact ⟨issued, all, World.Issued.trans (.nil (keeps w)) rest⟩

end Settle
