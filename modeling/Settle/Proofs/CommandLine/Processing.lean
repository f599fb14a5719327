import Settle.Proofs.CommandLine.Commands
import Settle.Proofs.CommandLine.Parameters
import Settle.Proofs.Session.Commands

/-!
# Templates that the cluster's command line expands

The task `apply` can have its template expanded by the cluster's command line. The command for this
has the parameters as they were given, the last one of every key, in the order of the keys, and it
is issued until it succeeds or the time for it is used up; what is issued after it expands nothing
(`deploys_parameters`).
-/

namespace Settle

section Submission

variable {σ : Type} [Cluster σ] {c d : Client} {e : Engine} {ignoreUnknown : Bool} {t : Template}
  {retry : Policy} {w : World σ}

/-- The commands of a submission whose source is there: one and the same to expand the template,
and perhaps one that hands the manifest over. -/
theorem Client.submitTemplate_issued
    (uncancelled : c.Uncancelled (t.query d ignoreUnknown) retry w)
    (he : e.expander = .process d ignoreUnknown) (hs : t.checkSource w.files = .ok ())
    (verb : Verb) :
    ∃ k later, w.Issued (c.submitTemplate verb e t retry w).2
        (List.replicate (k + 1) (t.query d ignoreUnknown) ++ later) ∧
      ∀ i ∈ later, i.verb = verb := by
  have issued {k : Nat} {v : World σ} (answered : Answered (t.query d ignoreUnknown) retry w k v) :
      w.Issued v (List.replicate (k + 1) (t.query d ignoreUnknown)) := by
    unfold World.Issued
    rw [answered.log, List.reverse_replicate]
  rcases w.failsUntil_or (t.query d ignoreUnknown) retry retry.pauses with
    failed | ⟨k, hk, failed, document, hr⟩
  · obtain ⟨f, hf⟩ := failed retry.pauses (Nat.lt_succ_self _)
    obtain ⟨-, answered⟩ := submitTemplate_of_failures uncancelled he hs
      (failed.mono (Nat.le_succ _)) hf verb
    exact ⟨retry.pauses, [], by simpa using issued answered, nofun⟩
  · obtain ⟨v, answered, delivers⟩ := delivers_of_reply uncancelled hk he hs failed hr verb
    have first := issued answered
    have handed {v' : World σ} {path : String} (log : v'.log = c.handing verb path :: v.log) :
        v.Issued v' [c.handing verb path] := log
    generalize c.submitTemplate verb e t retry w = run at delivers ⊢
    generalize e.written t document "json" w = written at delivers
    obtain ⟨result, v'⟩ := run
    cases delivers with
    | unwritten _ log _ => exact ⟨k, [], first.trans (.nil log), nofun⟩
    | @refused path _ _ _ log _ _ =>
      exact ⟨k, [c.handing verb path], first.trans (handed log), by simp [handing, command]⟩
    | @accepted path _ _ _ log _ _ =>
      exact ⟨k, [c.handing verb path], first.trans (handed log), by simp [handing, command]⟩

end Submission

namespace CommandLine

theorem Plan.ofTask_apply {c : Config} {client : Client} {scope : Option String} {source : String}
    {params : List (String × String)} {process : Bool} {awaited : Option String} {pacing : Pacing}
    {plan : Plan}
    (planned : ofTask c client scope (.apply source params process awaited pacing) = .ok plan) :
    ∃ presence, plan = .apply client
        ⟨if process then .process client false else .substitution, c.scratch⟩
        (.ofParams source params) c.policies.applyRetry presence ∧
      ∀ h policy, presence = some (h, policy) → h.client = client := by
  cases awaited with
  | none =>
    cases planned
    exact ⟨none, rfl, nofun⟩
  | some text =>
    simp only [ofTask, Option.mapM_some] at planned
    cases hs : Text.splitOnce '/' text with
    | none =>
      simp only [hs] at planned
      cases planned
    | some parts =>
      obtain ⟨kind, name⟩ := parts
      simp only [hs] at planned
      cases hp : Plan.policy c.policies.resource pacing with
      | error fault =>
        simp only [hp] at planned
        cases planned
      | ok policy =>
        simp only [hp] at planned
        cases planned
        refine ⟨_, rfl, ?_⟩
        rintro _ _ ⟨⟩
        rfl

theorem Plan.deploy_issued {σ : Type} [Cluster σ] {client : Client} {e : Engine} {t : Template}
    {retry : Policy} {presence : Option (Handle × Policy)}
    (same : ∀ h policy, presence = some (h, policy) → h.client = client) {w : World σ}
    {commands : List Invocation}
    (issued : w.Issued (client.applyTemplate e t retry w).2 commands) :
    ∃ queries, w.Issued (deploy client e t retry presence w).2 (commands ++ queries) ∧
      ∀ i ∈ queries, i.verb = .get := by
  cases presence with
  | none => exact ⟨[], by rw [List.append_nil]; exact issued, nofun⟩
  | some wait =>
    obtain ⟨h, policy⟩ := wait
    obtain rfl := same h policy rfl
    rw [← h.applyTemplate_world e t retry w] at issued
    simp only [deploy, Handle.applyTemplateAndAwait, Action.bind_apply]
    generalize h.applyTemplate e t retry w = applied at issued
    obtain ⟨⟨cause | m, h'⟩, w'⟩ := applied
    · exact ⟨[], by rw [List.append_nil]; exact issued, nofun⟩
    · obtain ⟨queries, waited, gets⟩ :=
        h'.awaitPresence_issuesOnly (P := (·.verb = .get)) policy rfl w'
      exact ⟨queries, issued.trans waited, gets⟩

section

variable {η : Type} [Host η] {r : Request} {site : Site η} {source : String}
  {params : List (String × String)} {awaited : Option String} {pacing : Pacing}

theorem Request.commands_apply (there : site.files.pathExists source = .ok true)
    (task : r.task = .apply source params true awaited pacing)
    (sound : ¬ r.Faulty site.env site.files) :
    ∃ k later, r.commands site =
        List.replicate (k + 1)
          ((Template.ofParams source params).query { account := r.account } false) ++ later ∧
      ∀ i ∈ later, i.verb ≠ .process := by
  cases planned : r.plan site.env site.files with
  | error fault => exact absurd ((r.plan_error_iff _ _).mp ⟨fault, planned⟩) sound
  | ok made =>
    obtain ⟨c, plan⟩ := made
    obtain ⟨-, made⟩ := plan_ok planned
    rw [task] at made
    obtain ⟨presence, rfl, same⟩ := Plan.ofTask_apply made
    have checked : (Template.ofParams source params).checkSource (site.start c).files = .ok () := by
      have there : (site.start c).files.pathExists (Template.ofParams source params).source =
        .ok true := there
      rw [Template.checkSource, there]
    have uncancelled : Client.Uncancelled { account := r.account }
        ((Template.ofParams source params).query { account := r.account } false)
        c.policies.applyRetry (site.start c) := nofun
    obtain ⟨k, handing, submitted, hands⟩ :=
      Client.submitTemplate_issued (e := ⟨.process { account := r.account } false, c.scratch⟩)
        uncancelled rfl checked .apply
    obtain ⟨queries, deployed, gets⟩ := Plan.deploy_issued same submitted
    refine ⟨k, handing ++ queries, commands_of_plan planned ?_, fun i hi => ?_⟩
    · rw [← List.append_assoc]
      exact deployed
    · rcases List.mem_append.mp hi with hi | hi
      · rw [hands i hi]
        decide
      · rw [gets i hi]
        decide

/-- Requests that differ in the order of parameters with different keys are one. -/
theorem Request.same_of_perm {texts texts' : List String} (equals : ∀ t ∈ texts, '=' ∈ t.toList)
    (perm : texts.Perm texts') (nodup : (texts.map Template.keyOf).Nodup) (process : Bool) :
    let asked (texts : List String) : Request :=
      { r with task := .apply source (Template.paramsOf texts) process awaited pacing }
    (asked texts).run site = (asked texts').run site ∧
      (asked texts).commands site = (asked texts').commands site := by
  intro asked
  have planned : (asked texts).plan site.env site.files =
      (asked texts').plan site.env site.files := by
    have template := Template.ofParams_perm equals perm nodup source
    simp only [asked, plan, Plan.ofTask, template]
  constructor
  · rw [Request.run, planned]
    rfl
  · rw [Request.commands, planned]
    rfl

end

theorem Task.not_faulty_apply {source : String} {params : List (String × String)}
    {process : Bool} : ¬ Faulty (.apply source params process none {}) := by
  intro faulty
  cases faulty with
  | pacing waits _ => cases waits

theorem source_ne_empty {files : FileSystem} {source : String}
    (there : files.pathExists source = .ok true) : source ≠ "" := by
  rintro rfl
  cases there

/-- The task `apply` with parameters given in any of the ways that the command line knows, all of
them with equals signs. Such a command line is read as the request to deploy the source with these
parameters; nothing can be wrong with it but the configuration file. The request to have a source
that is there expanded by the cluster's command line issues one command, perhaps again and again:
with the source, and then the last of the texts of every key, as they were given, in the order of
the bytes of the keys. When all keys are different the order of the parameters makes no difference,
to this command as to the document that substitution makes, and to all the rest of the run. -/
theorem deploys_parameters {η : Type} [Host η] (site : Site η) {source : String}
    {texts : List String} (there : site.files.pathExists source = .ok true)
    (equals : ∀ t ∈ texts, '=' ∈ t.toList) :
    (∀ args g, Spells args g → g.values "param" = texts → g.values "template" = [source] →
      (g.values "process").length ≤ 1 → site.env.lookup "CONVERGE_CONFIG" ≠ some "" →
      ∃ r, Request.read (site.env.lookup "CONVERGE_CONFIG") ("apply" :: args) = .ok r ∧
        r.task = .apply source (Template.paramsOf texts) (g.has "process") none {} ∧
        (r.Faulty site.env site.files → ∃ path cause,
          r.config = some path ∧ Config.load site.env site.files path = .error cause)) ∧
    (∀ (r : Request) awaited pacing,
      r.task = .apply source (Template.paramsOf texts) true awaited pacing →
      ¬ r.Faulty site.env site.files →
      ∃ chosen k later, Template.Chosen texts chosen ∧
        r.commands site =
          List.replicate (k + 1)
            { verb := .process, account := r.account, scope := none
              args := "-f" :: source :: chosen.flatMap fun text => ["-p", text] } ++ later ∧
        ∀ i ∈ later, i.verb ≠ .process) ∧
    ∀ texts', texts.Perm texts' → (texts.map Template.keyOf).Nodup →
      (∀ files, (Template.ofParams source (Template.paramsOf texts)).expandText files =
        (Template.ofParams source (Template.paramsOf texts')).expandText files) ∧
      ∀ (r : Request) process awaited pacing,
        let asked (texts : List String) : Request :=
          { r with task := .apply source (Template.paramsOf texts) process awaited pacing }
        (asked texts).run site = (asked texts').run site ∧
          (asked texts).commands site = (asked texts').commands site := by
  refine ⟨fun args g spells params sources once named => ?_, fun r awaited pacing task sound => ?_,
    fun texts' perm nodup => ⟨fun files => ?_, fun r process awaited pacing => ?_⟩⟩
  · have deploys : Deploys g source := ⟨params ▸ equals, sources, source_ne_empty there, once⟩
    refine ⟨_, Request.read_apply spells deploys named, by rw [params], fun faulty => ?_⟩
    cases faulty with
    | @config path cause given failed => exact ⟨path, cause, given, failed⟩
    | task faulty => exact absurd faulty Task.not_faulty_apply
  · obtain ⟨k, later, commands, others⟩ := Request.commands_apply there task sound
    obtain ⟨chosen, chooses, args⟩ := Template.processArgs_ofParams equals
    refine ⟨chosen, k, later, chooses, ?_, others⟩
    rw [commands, Template.query, args source]
    rfl
  · rw [Template.ofParams_perm equals perm nodup]
  · exact Request.same_of_perm equals perm nodup process

/-- Three parameters, two of them with one key. -/
theorem deploys_parameters_of_three :
    let site : Site Rehearsal.Transcript :=
      { env := [], files := FileSystem.blank.put ["work", "t.yaml"] (.file .empty)
        names := .ofSeed 1 1, host := { left := [{ stdout := "k".toUTF8 }, {}] } }
    let args := ["--param", "b=2=3", "-pa=1", "--process", "t.yaml", "--param=b=4"]
    let asked (params : List (String × String)) : Request :=
      { config := none, scope := none, account := .admin, format := .text
        task := .apply "t.yaml" params true none {} }
    let r := asked [("b", "2=3"), ("a", "1"), ("b", "4")]
    Request.read none ("apply" :: args) = .ok r ∧
      (∃ chosen k later, Template.Chosen ["b=2=3", "a=1", "b=4"] chosen ∧
        r.commands site =
          List.replicate (k + 1)
            { verb := .process, account := .admin, scope := none
              args := "-f" :: "t.yaml" :: chosen.flatMap fun text => ["-p", text] } ++ later) ∧
      (r.commands site).head? =
        some { verb := .process, account := .admin, scope := none
               args := ["-f", "t.yaml", "-p", "a=1", "-p", "b=4"] } ∧
      (asked [("b", "2"), ("a", "1")]).run site = (asked [("a", "1"), ("b", "2")]).run site := by
  intro site args asked r
  have there : site.files.pathExists "t.yaml" = .ok true := by decide +kernel
  have equals : ∀ t ∈ ["b=2=3", "a=1", "b=4"], '=' ∈ t.toList := by decide
  obtain ⟨reads, issues, -⟩ := deploys_parameters site there equals
  have letter : ParamArgs "a=1" ["-pa=1"] := .letter (by decide)
  have attached : ParamArgs "b=4" ["--param=b=4"] := .equals
  have spells : Spells args [("param", "b=2=3"), ("param", "a=1"), ("process", ""),
      ("template", "t.yaml"), ("param", "b=4")] :=
    .param (.next (by decide)) (.param letter
      (.process (.source (by decide) (.param attached .nil))))
  have read : Request.read none ("apply" :: args) = .ok r := rfl
  obtain ⟨r', read', -, sound⟩ := reads args _ spells rfl rfl (by decide) nofun
  obtain rfl : r' = r := Except.ok.inj (read'.symm.trans read)
  obtain ⟨chosen, k, later, chooses, commands, -⟩ := issues r none {} rfl fun faulty =>
    let ⟨_, _, named, _⟩ := sound faulty
    nomatch named
  have equals : ∀ t ∈ ["b=2", "a=1"], '=' ∈ t.toList := by decide
  obtain ⟨-, -, reorders⟩ := deploys_parameters site there equals
  obtain ⟨-, reordered⟩ := reorders ["a=1", "b=2"] (.swap _ _ _) (by decide)
  exact ⟨read, ⟨chosen, k, later, chooses, commands⟩, by decide +kernel,
    (reordered (asked []) true none {}).1⟩

end CommandLine

end Settle
