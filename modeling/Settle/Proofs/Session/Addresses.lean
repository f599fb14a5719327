import Mathlib.Data.List.Forall2
import Settle.Proofs.Handle.Commands

/-!
# Whom the commands of a session concern

Every command runs as the account of the client that its handle, set or engine was made from. The
commands of a handle are about its object, and those of a set about its kind, in the namespace given
for it; only what hands a manifest over or expands a template has no namespace. So it is in whatever
order the calls of a session are made (`Session.commands_addressed`).
-/

namespace Settle

namespace Invocation

/-- The command runs as the account that the derivations of a client have chosen. -/
def RunsAs (i : Invocation) (c : Client) : Prop :=
  ∀ (root : Client) (chain : List Client.Derivation), c = root.deriveAll chain →
    i.account = (Client.lastChoice? chain).getD root.account

/-- The command is about an object: it has its namespace, and names its kind and name first. -/
def IsAbout (i : Invocation) (c : Client) (o : ObjectRef) : Prop :=
  i.RunsAs c ∧ i.scope = o.scope ∧
    match i.verb with
    | .get | .delete | .patch => [o.kind, o.name] <+: i.args
    | .logs | .scale => [o.kind ++ "/" ++ o.name] <+: i.args
    | .apply | .create | .process => False

def HandsOver (i : Invocation) (verb : Verb) (c : Client) : Prop :=
  i.verb = verb ∧ i.RunsAs c ∧ i.scope = none

/-- The command expands a template for an engine that leaves it to a client. -/
def ExpandsFor (i : Invocation) (e : Engine) : Prop :=
  ∃ d ignoreUnknown, e.expander = .process d ignoreUnknown ∧
    i.verb = .process ∧ i.RunsAs d ∧ i.scope = none

theorem runsAs_of_account {i : Invocation} {c : Client} (h : i.account = c.account) :
    i.RunsAs c := by
  rintro root chain rfl
  rw [h, root.deriveAll_account]

end Invocation

theorem Client.command_runsAs (c : Client) (verb : Verb) (scope : Option String)
    (args : List String) : (c.command verb scope args).RunsAs c :=
  Invocation.runsAs_of_account rfl

def Client.Operation.MayIssue (c : Client) (i : Invocation) : Operation → Prop
  | command verb scope args => i.verb = verb ∧ i.RunsAs c ∧ i.scope = scope ∧ i.args = args
  | applyManifest _ => i.HandsOver .apply c
  | applyTemplate e _ _ => i.HandsOver .apply c ∨ i.ExpandsFor e
  | createFromTemplate e _ _ => i.HandsOver .create c ∨ i.ExpandsFor e

/-- What an operation on a handle may issue that was made from a client for an object. -/
def Handle.Operation.MayIssue (c : Client) (o : ObjectRef) (i : Invocation) : Operation → Prop
  | applyTemplate e _ _ => i.HandsOver .apply c ∨ i.ExpandsFor e
  | applyTemplateAndAwait e _ _ _ =>
    (i.HandsOver .apply c ∨ i.ExpandsFor e) ∨ i.IsAbout c o
  | isPresent | awaitPresence _ | awaitAbsence _ | delete | clear _ | read _ | logs _
  | awaitField _ _ _ | awaitReady _ _ | awaitRollout _ | awaitLogLine _ _ _ | patch _ _
  | scale _ => i.IsAbout c o

def ResourceSet.MayIssue (s : ResourceSet) (i : Invocation) : Prop :=
  i.verb = .get ∧ i.RunsAs s.client ∧ i.scope = s.scope ∧ [s.kind] <+: i.args

/-- What a call may issue. A handle is judged by what it was made from. -/
def Call.MayIssue (σ : Type) [Cluster σ] (i : Invocation) : Call → Prop
  | client c op => op.MayIssue c i
  | handle h op => ∀ c o, h.StemsFrom σ c o → op.MayIssue c o i
  | set s _ => s.MayIssue i

/-! ## Commands about an object -/

namespace ObjectRef

variable (o : ObjectRef) (c : Client)

theorem isAbout_of_pair {verb : Verb} (hv : verb = .get ∨ verb = .delete ∨ verb = .patch)
    (more : List String) : (c.command verb o.scope (o.kind :: o.name :: more)).IsAbout c o := by
  refine ⟨c.command_runsAs _ _ _, rfl, ?_⟩
  rcases hv with rfl | rfl | rfl <;> exact List.prefix_append [o.kind, o.name] more

theorem isAbout_of_target {verb : Verb} (hv : verb = .logs ∨ verb = .scale) (more : List String) :
    (c.command verb o.scope (o.target :: more)).IsAbout c o := by
  refine ⟨c.command_runsAs _ _ _, rfl, ?_⟩
  rcases hv with rfl | rfl <;> exact List.prefix_append [o.target] more

end ObjectRef

theorem Handle.Command.invocation_isAbout (x : Command) (h : Handle) :
    (x.invocation h).IsAbout h.client h.object := by
  cases x with
  | name | projection p | json => exact h.object.isAbout_of_pair h.client (.inl rfl) _
  | delete => exact h.object.isAbout_of_pair h.client (.inr (.inl rfl)) _
  | patch kind body => exact h.object.isAbout_of_pair h.client (.inr (.inr rfl)) _
  | logs container => exact h.object.isAbout_of_target h.client (.inl rfl) _
  | scale replicas => exact h.object.isAbout_of_target h.client (.inr rfl) _

/-! ## Each operation -/

variable {σ : Type} [Cluster σ]

theorem Client.handing_handsOver (c : Client) (verb : Verb) (path : String) :
    (c.handing verb path).HandsOver verb c :=
  ⟨rfl, c.command_runsAs _ _ _, rfl⟩

theorem Engine.expandsFor (e : Engine) (t : Template) : e.ExpandsBy (·.ExpandsFor e) t :=
  fun d ignoreUnknown he => ⟨d, ignoreUnknown, he, rfl, d.command_runsAs _ _ _, rfl⟩

theorem Client.submitTemplate_addressed (c : Client) (verb : Verb) (e : Engine) (t : Template)
    (retry : Policy) :
    (c.submitTemplate (σ := σ) verb e t retry).IssuesOnly
      fun i => i.HandsOver verb c ∨ i.ExpandsFor e :=
  c.submitTemplate_issuesOnly (fun d ignoreUnknown he => .inr (e.expandsFor t d ignoreUnknown he))
    (fun path => .inl (c.handing_handsOver verb path)) retry

theorem Client.Operation.run_addressed (op : Operation) (c : Client) :
    (op.run (σ := σ) c).IssuesOnly (op.MayIssue c) := by
  cases op with
  | command verb scope args => exact .issue ⟨rfl, c.command_runsAs _ _ _, rfl, rfl⟩
  | applyManifest m =>
    refine .bind (.issue (c.handing_handsOver .apply m.path)) fun answer => ?_
    cases answer <;> exact .pure _
  | applyTemplate e t retry => exact c.submitTemplate_addressed .apply e t retry
  | createFromTemplate e t retry => exact c.submitTemplate_addressed .create e t retry

theorem Handle.Operation.run_addressed (op : Operation) (h : Handle) :
    (op.run (σ := σ) h).IssuesOnly (op.MayIssue h.client h.object) := by
  refine op.run_issuesOnly h (fun x hx => ?_) ?_
  · have about := x.invocation_isAbout h
    cases op with
    | applyTemplate e t retry => cases hx
    | applyTemplateAndAwait e t retry presence => exact .inr about
    | _ => exact about
  · cases op with
    | applyTemplate e t retry =>
      exact ⟨fun d ignoreUnknown he => .inr (e.expandsFor t d ignoreUnknown he),
        fun path => .inl (h.client.handing_handsOver .apply path)⟩
    | applyTemplateAndAwait e t retry presence =>
      exact ⟨fun d ignoreUnknown he => .inl (.inr (e.expandsFor t d ignoreUnknown he)),
        fun path => .inl (.inl (h.client.handing_handsOver .apply path))⟩
    | _ => trivial

theorem ResourceSet.query_mayIssue (s : ResourceSet) (f : Filter) (output : String) :
    s.MayIssue (s.query f output) :=
  ⟨rfl, s.client.command_runsAs _ _ _, rfl, List.prefix_append [s.kind] _⟩

theorem ResourceSet.Operation.run_addressed (op : Operation) (s : ResourceSet) :
    (op.run (σ := σ) s).IssuesOnly s.MayIssue := by
  have names (f : Filter) : (s.names (σ := σ) f).IssuesOnly s.MayIssue :=
    .bind (.issue (s.query_mayIssue f _)) fun _ => .pure _
  cases op with
  | names f => exact names f
  | list f => exact .bind (names f) fun _ => .pure _
  | count f => exact .bind (names f) fun _ => .pure _
  | awaitSize f expected policy => exact s.client.await_issuesOnly _ policy (s.query_mayIssue f _)
  | awaitEmptiness f policy => exact s.client.await_issuesOnly _ policy (s.query_mayIssue f _)
  | awaitPodsReady f policy => exact s.client.await_issuesOnly _ policy (s.query_mayIssue f _)

theorem Call.run_addressed (x : Call) : (x.run (σ := σ)).IssuesOnly (x.MayIssue σ) := by
  cases x with
  | client c op => exact op.run_addressed c
  | set s op => exact op.run_addressed s
  | handle h op =>
    refine (op.run_addressed h).mono fun i hi c o stems => ?_
    rw [← stems.client_eq, ← stems.object_eq]
    exact hi

/-- What a session adds to the log of commands are the commands of its calls, call by call, and each
call issues only what it may by the client, handle or set that it is on. -/
theorem Session.commands_addressed (s : Session σ) (w : World σ) :
    ∃ issued : List (List Invocation),
      List.Forall₂ (fun begun commands => ∀ i ∈ commands, begun.1.MayIssue σ i)
        (s.calls w) issued ∧
      w.Issued (s.run w).2 issued.flatten := by
  induction s generalizing w with
  | done => exact ⟨[], .nil, .nil rfl⟩
  | call x next ih =>
    obtain ⟨commands, first, addressed⟩ := x.run_addressed w
    obtain ⟨issued, all, rest⟩ := ih (x.run w).1 (x.run w).2
    exact ⟨commands :: issued, .cons addressed all, first.trans rest⟩
  | meanwhile change keeps next ih =>
    obtain ⟨issued, all, rest⟩ := ih (change w)
    exact ⟨issued, all, World.Issued.trans (.nil (keeps w)) rest⟩

end Settle
