import Settle.Proofs.CommandLine.Arguments
import Settle.Proofs.CommandLine.Format
import Settle.Proofs.Session.Issued

/-!
# The commands of a run

`Request.commands` are the commands that the cluster is given while a request is carried out. A run
that ends well has had a plan, and tells what the plan has given (`run_of_success`).
-/

namespace Settle.CommandLine

variable {r : Request}

theorem Request.plan_ok {env : Config.Environment} {files : FileSystem} {c : Config} {plan : Plan}
    (planned : r.plan env files = .ok (c, plan)) :
    configure env files r.config = .ok c ∧
      Plan.ofTask c { account := r.account } r.scope r.task = .ok plan := by
  unfold Request.plan at planned
  cases hc : configure env files r.config with
  | error fault =>
    rw [hc] at planned
    cases planned
  | ok c' =>
    rw [hc] at planned
    cases hp : Plan.ofTask c' { account := r.account } r.scope r.task with
    | error fault =>
      simp only [bind, Except.bind, hp] at planned
      cases planned
    | ok plan' =>
      simp only [bind, Except.bind, hp] at planned
      cases planned
      exact ⟨rfl, hp⟩

variable {η : Type} [Host η] {site : Site η}

/-- The commands that are issued for a request, in order. Without a plan there are none. -/
def Request.commands (r : Request) (site : Site η) : List Invocation :=
  match r.plan site.env site.files with
  | .error _ => []
  | .ok (c, plan) => (plan.perform (site.start c)).2.log.reverse

theorem Request.commands_of_plan {c : Config} {plan : Plan} {commands : List Invocation}
    (planned : r.plan site.env site.files = .ok (c, plan))
    (issued : (site.start c).Issued (plan.perform (site.start c)).2 commands) :
    r.commands site = commands := by
  have log : (plan.perform (site.start c)).2.log = commands.reverse ++ [] := issued
  simp only [Request.commands, planned, log, List.append_nil, List.reverse_reverse]

/-- With status 0 a request has been planned and carried out. -/
theorem run_of_success {args : List String}
    (read : Request.read (site.env.lookup "CONVERGE_CONFIG") args = .ok r)
    (success : (run args site).1.status = 0) :
    ∃ c plan completion, r.plan site.env site.files = .ok (c, plan) ∧
      (plan.perform (site.start c)).1 = .ok completion ∧
      (run args site).1 =
        { status := completion.status, stdout := printed r.format completion.answer } := by
  have ran : (run args site).1 = ending r.format (r.run site).1 :=
    congrArg Prod.fst (run_of_read (r := r) read)
  cases planned : r.plan site.env site.files with
  | error fault =>
    rw [ran, Request.run_of_no_plan planned] at success
    cases success
  | ok made =>
    obtain ⟨c, plan⟩ := made
    rw [Request.run_of_plan planned] at ran
    cases performed : (plan.perform (site.start c)).1 with
    | error cause =>
      rw [ran, performed] at success
      cases success
    | ok completion =>
      rw [performed] at ran
      exact ⟨c, plan, completion, rfl, performed, ran⟩

end Settle.CommandLine
