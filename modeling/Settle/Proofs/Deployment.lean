import Settle.Deployment
import Settle.Proofs.Files.Scratch
import Settle.Proofs.Watch.Polling
import Settle.Rehearsal.Cluster

/-!
# What a deployment does

A deployment gets a document first. With the substitution engine there is one attempt at it; with
the process engine one and the same command is issued until it succeeds or the deadline has come.
A complete document is written to a new file, and the file is handed to the cluster once, whatever
comes of that (`Client.Delivers`). `Client.submitTemplate_run` puts this together.
-/

namespace Settle

variable {σ : Type}

/-! ## From the document on -/

/-- What writing a document for a template gives: the path of its file, or why there is none. -/
def Engine.written (e : Engine) (t : Template) (document extension : String) (v : World σ) :
    Except TemplateError String :=
  (Scratch.write e.scratch t.stem extension document v).1

theorem Engine.written_congr (e : Engine) (t : Template) (document extension : String)
    {v w : World σ} (files : v.files = w.files) (names : v.names = w.names) :
    e.written t document extension v = e.written t document extension w := by
  unfold written Scratch.write
  rw [files, names]
  split <;> rfl

variable [Cluster σ]

def Client.handing (c : Client) (verb : Verb) (path : String) : Invocation :=
  c.command verb none ["-f", path]

/-- What becomes of a document that is complete in `v`, by what its writing gives. Either it could
not be written and no file is created, or its one new file is handed to the cluster, once, and the
cluster's answer to that is the result. No time passes. -/
inductive Client.Delivers (c : Client) (verb : Verb) (document : String) (v : World σ) :
    Except TemplateError String → Except Error Manifest → World σ → Prop
  | unwritten {path : String} {cause : FileError} {w : World σ} (now : w.now = v.now)
      (log : w.log = v.log) (files : v.files.AddsDirectories w.files) :
      Delivers c verb document v (.error (.write path cause))
        (.error (.template (.write path cause))) w
  | refused {path : String} {f : CommandFailure} {w : World σ} (now : w.now = v.now)
      (log : w.log = c.handing verb path :: v.log)
      (files : v.files.CreatesFile w.files path document)
      (answer : (Cluster.answer v.now (c.handing verb path) v.cluster).1.result = .error f) :
      Delivers c verb document v (.ok path) (.error (.ofSubmission f path)) w
  | accepted {path output : String} {w : World σ} (now : w.now = v.now)
      (log : w.log = c.handing verb path :: v.log)
      (files : v.files.CreatesFile w.files path document)
      (answer : (Cluster.answer v.now (c.handing verb path) v.cluster).1.result = .ok output) :
      Delivers c verb document v (.ok path) (.ok ⟨path, document⟩) w

def Client.handOver (c : Client) (verb : Verb) :
    Except Error Manifest → Action σ (Except Error Manifest)
  | .error e => return .error e
  | .ok m => do return (← c.submitManifest verb m).map fun _ => m

def Client.deployOnce (c : Client) (verb : Verb) (e : Engine) (t : Template) :
    Action σ (Except Error Manifest) := do c.handOver verb (← e.expand t)

theorem Client.handOver_error (c : Client) (verb : Verb) (e : Error) (w : World σ) :
    c.handOver verb (.error e) w = (.error e, w) := rfl

theorem Client.handOver_ok (c : Client) (verb : Verb) (m : Manifest) (w : World σ) :
    c.handOver verb (.ok m) w =
      (match (Action.issue (c.handing verb m.path) w).1 with
        | .ok _ => .ok m
        | .error f => .error (.ofSubmission f m.path),
      (Action.issue (c.handing verb m.path) w).2) := by
  unfold handing
  rcases hi : Action.issue (c.command verb none ["-f", m.path]) w with ⟨answer, w'⟩
  cases answer <;> simp [handOver, submitManifest, hi, Except.map]

/-! ## Expanding -/

def Template.query (t : Template) (d : Client) (ignoreUnknown : Bool) : Invocation :=
  d.command .process none (t.processArgs ignoreUnknown)

/-- What goes wrong here before a command is issued does not mend itself. -/
theorem Template.expandText_error {t : Template} {files : FileSystem} {cause : TemplateError}
    (h : t.expandText files = .error cause) : (Error.template cause).isTransient = false := by
  unfold expandText at h
  split at h
  · cases h; rfl
  · cases h; rfl
  · rename_i text _
    cases hs : substitute t.params text with
    | error key => rw [hs] at h; cases h; rfl
    | ok document => rw [hs] at h; cases h

theorem Template.checkSource_error {t : Template} {files : FileSystem} {cause : TemplateError}
    (h : t.checkSource files = .error cause) : (Error.template cause).isTransient = false := by
  unfold checkSource at h
  split at h <;> cases h <;> rfl

theorem Engine.document_of_substitution {e : Engine} (he : e.expander = .substitution)
    (t : Template) (w : World σ) :
    e.document t w = ((t.expandText w.files).map (·, t.extension), w) := by
  unfold document
  rw [he]
  rfl

theorem Engine.document_of_checkSource {e : Engine} {d : Client} {ignoreUnknown : Bool}
    (he : e.expander = .process d ignoreUnknown) {t : Template} {w : World σ}
    {cause : TemplateError} (hs : t.checkSource w.files = .error cause) :
    e.document t w = (.error cause, w) := by
  simp [document, he, hs]

theorem Engine.document_of_process {e : Engine} {d : Client} {ignoreUnknown : Bool}
    (he : e.expander = .process d ignoreUnknown) {t : Template} {w : World σ}
    (hs : t.checkSource w.files = .ok ()) :
    e.document t w =
      (((Action.issue (t.query d ignoreUnknown) w).1.mapError
          TemplateError.expansionFailed).map (·, "json"),
        (Action.issue (t.query d ignoreUnknown) w).2) := by
  unfold Template.query
  rcases hi : Action.issue (d.command .process none (t.processArgs ignoreUnknown)) w
    with ⟨answer, w'⟩
  cases answer <;> simp [document, he, hs, hi, Except.mapError, Except.map]

theorem Engine.document_now (e : Engine) (t : Template) (w : World σ) :
    (e.document t w).2.now = w.now := by
  cases he : e.expander with
  | substitution => rw [document_of_substitution he]
  | process d ignoreUnknown =>
    cases hs : t.checkSource w.files with
    | ok u => rw [document_of_process he hs, Action.issue_now]
    | error cause => rw [document_of_checkSource he hs]

theorem Engine.expand_of_error {e : Engine} {t : Template} {cause : TemplateError} {w v : World σ}
    (h : e.document t w = (.error cause, v)) : e.expand t w = (.error (.template cause), v) := by
  simp [Engine.expand, h]

theorem Engine.expand_of_document {e : Engine} {t : Template} {document extension : String}
    {w v : World σ} (h : e.document t w = (.ok (document, extension), v)) :
    ∃ files names,
      Scratch.Leaves v.files files document (e.written t document extension v) ∧
      e.expand t w =
        (match e.written t document extension v with
          | .ok path => .ok ⟨path, document⟩
          | .error cause => .error (.template cause),
        { v with files, names }) := by
  have leaves := Scratch.write_leaves e.scratch t.stem extension document v
  obtain ⟨files, names, frame⟩ := Scratch.write_frame e.scratch t.stem extension document v
  rw [frame] at leaves
  refine ⟨files, names, leaves, ?_⟩
  unfold Engine.expand Engine.written
  simp only [Action.bind_apply, h]
  rw [frame]
  cases (Scratch.write e.scratch t.stem extension document v).1 <;> rfl

theorem Engine.expand_of_ok {e : Engine} {t : Template} {document extension : String}
    {w v : World σ} (h : e.document t w = (.ok (document, extension), v)) :
    isPassing (e.expand t w).1 = false ∧ (e.expand t w).2.now = v.now ∧
      (e.expand t w).2.cancelAt = v.cancelAt := by
  obtain ⟨files, names, leaves, expanded⟩ := expand_of_document h
  rw [expanded]
  cases hw : e.written t document extension v with
  | error cause =>
    rw [hw] at leaves
    obtain ⟨⟨path, cause, rfl⟩, _⟩ := leaves
    exact ⟨rfl, rfl, rfl⟩
  | ok path => exact ⟨rfl, rfl, rfl⟩

theorem Engine.expand_now (e : Engine) (t : Template) (w : World σ) :
    (e.expand t w).2.now = w.now := by
  have now := e.document_now t w
  rcases hd : e.document t w with ⟨cause | ⟨document, extension⟩, v⟩
  · rw [hd] at now
    rw [expand_of_error hd]
    exact now
  · rw [hd] at now
    rw [(expand_of_ok hd).2.1]
    exact now

theorem Client.delivers_of_document (c : Client) (verb : Verb) {e : Engine} {t : Template}
    {document extension : String} {w v : World σ}
    (h : e.document t w = (.ok (document, extension), v)) :
    c.Delivers verb document v (e.written t document extension v)
      (c.deployOnce verb e t w).1 (c.deployOnce verb e t w).2 := by
  obtain ⟨files, names, leaves, expanded⟩ := Engine.expand_of_document h
  unfold deployOnce
  rw [Action.bind_apply, expanded]
  cases hw : e.written t document extension v with
  | error cause =>
    rw [hw] at leaves
    obtain ⟨⟨path, cause, rfl⟩, added⟩ := leaves
    exact .unwritten rfl rfl added
  | ok path =>
    rw [hw] at leaves
    have created : v.files.CreatesFile files path document := leaves
    dsimp only
    rw [handOver_ok]
    generalize hv : ({ v with files, names } : World σ) = v'
    have answered : (Action.issue (c.handing verb path) v').1 =
        (Cluster.answer v.now (c.handing verb path) v.cluster).1.result := by subst hv; rfl
    have now : (Action.issue (c.handing verb path) v').2.now = v.now := by
      rw [Action.issue_now, ← hv]
    have log : (Action.issue (c.handing verb path) v').2.log = c.handing verb path :: v.log := by
      rw [Action.issue_log, ← hv]
    have files :
        v.files.CreatesFile (Action.issue (c.handing verb path) v').2.files path document := by
      rw [Action.issue_files, ← hv]; exact created
    dsimp only
    rw [answered]
    cases ha : (Cluster.answer v.now (c.handing verb path) v.cluster).1.result with
    | error f => exact .refused now log files ha
    | ok output => exact .accepted now log files ha

/-! ## The attempts -/

theorem Client.deployOnce_of_error (c : Client) (verb : Verb) {e : Engine} {t : Template}
    {cause : TemplateError} {w v : World σ} (h : e.document t w = (.error cause, v)) :
    c.deployOnce verb e t w = (.error (.template cause), v) := by
  unfold deployOnce
  rw [Action.bind_apply, Engine.expand_of_error h, handOver_error]

theorem Client.submitTemplate_of_last {c : Client} {e : Engine} {t : Template} {retry : Policy}
    {w : World σ} {k : Nat} (h : (c.pace retry).Undisturbed (e.expand t) w k)
    (hk : k ≤ retry.pauses)
    (before : ∀ j < k, isPassing (e.expand t (retry.worldAt (e.expand t) w j)).1 = true)
    (last : k = retry.pauses ∨ isPassing (e.expand t (retry.worldAt (e.expand t) w k)).1 = false)
    (verb : Verb) :
    c.submitTemplate verb e t retry w =
      c.deployOnce verb e t (retry.worldAt (e.expand t) w k) := by
  have made : (c.pace retry).prepareFrom w.now (e.expand t) (c.pace retry).policy.pauses w =
      e.expand t (retry.worldAt (e.expand t) w k) := Pace.prepareFrom_of_passing h hk before last
  unfold submitTemplate Pace.submit deployOnce
  simp only [Action.bind_apply, Action.get_apply]
  rw [made]
  rcases e.expand t (retry.worldAt (e.expand t) w k) with ⟨_ | m, v⟩ <;> rfl

/-- An attempt that does not fail in passing, and is not cancelled, is the only one. -/
theorem Client.submitTemplate_once {c : Client} {e : Engine} {t : Template} {retry : Policy}
    {w : World σ} (calm : (c.pace retry).Calm w) (final : isPassing (e.expand t w).1 = false)
    (cancelAt : (e.expand t w).2.cancelAt = w.cancelAt) (verb : Verb) :
    c.submitTemplate verb e t retry w = c.deployOnce verb e t w := by
  have undisturbed : (c.pace retry).Undisturbed (e.expand t) w 0 := by
    refine ⟨e.expand_now t, calm, fun k hk hh => ?_⟩
    obtain rfl := Nat.le_zero.mp hk
    exact cancelAt.trans (calm hh)
  exact submitTemplate_of_last undisturbed (Nat.zero_le _)
    (fun j hj => absurd hj (Nat.not_lt_zero j)) (.inr final) verb

/-- A failure to get as far as a document is final, unless a command failed. -/
theorem Client.submitTemplate_of_error {c : Client} {e : Engine} {t : Template} {retry : Policy}
    {w : World σ} {cause : TemplateError} (calm : (c.pace retry).Calm w)
    (h : e.document t w = (.error cause, w)) (hc : (Error.template cause).isTransient = false)
    (verb : Verb) : c.submitTemplate verb e t retry w = (.error (.template cause), w) := by
  have expanded := Engine.expand_of_error h
  rw [submitTemplate_once calm (by rw [expanded]; exact hc) (by rw [expanded]) verb,
    deployOnce_of_error c verb h]

/-- The first `k` answers to a command are failures. -/
def World.FailsUntil (w : World σ) (q : Invocation) (p : Policy) (k : Nat) : Prop :=
  ∀ j < k, ∃ f, (w.replyAt q p j).result = .error f

theorem World.FailsUntil.mono {w : World σ} {q : Invocation} {p : Policy} {j k : Nat}
    (h : w.FailsUntil q p k) (hj : j ≤ k) : w.FailsUntil q p j :=
  fun i hi => h i (Nat.lt_of_lt_of_le hi hj)

theorem World.failsUntil_or (w : World σ) (q : Invocation) (p : Policy) (n : Nat) :
    w.FailsUntil q p (n + 1) ∨
      ∃ k ≤ n, w.FailsUntil q p k ∧ ∃ output, (w.replyAt q p k).result = .ok output := by
  have fails {j : Nat} (h : ¬ ∃ output, (w.replyAt q p j).result = .ok output) :
      ∃ f, (w.replyAt q p j).result = .error f := by
    cases hr : (w.replyAt q p j).result with
    | error f => exact ⟨f, rfl⟩
    | ok output => exact absurd ⟨output, hr⟩ h
  rcases forall_not_or_exists_first (P := fun j => ∃ output, (w.replyAt q p j).result = .ok output)
    n with none | ⟨k, hk, hr, before⟩
  · exact .inl fun j hj => fails (none j (Nat.le_of_lt_succ hj))
  · exact .inr ⟨k, hk, fun j hj => fails (before j hj), hr⟩

section Process

variable {c d : Client} {e : Engine} {ignoreUnknown : Bool} {t : Template} {retry : Policy}
  {w : World σ} {k : Nat}

theorem Engine.document_of_reply {v : World σ} (he : e.expander = .process d ignoreUnknown)
    (hs : t.checkSource w.files = .ok ()) (hp : Polled (t.query d ignoreUnknown) retry w k v) :
    e.document t v =
      (((w.replyAt (t.query d ignoreUnknown) retry k).result.mapError
          TemplateError.expansionFailed).map (·, "json"),
        (Action.issue (t.query d ignoreUnknown) v).2) := by
  rw [document_of_process he (by rw [hp.files]; exact hs), hp.issue_fst]

theorem Engine.expand_of_failure {v : World σ} {f : CommandFailure}
    (he : e.expander = .process d ignoreUnknown) (hs : t.checkSource w.files = .ok ())
    (hp : Polled (t.query d ignoreUnknown) retry w k v)
    (hf : (w.replyAt (t.query d ignoreUnknown) retry k).result = .error f) :
    e.expand t v =
      (.error (.template (.expansionFailed f)), (Action.issue (t.query d ignoreUnknown) v).2) := by
  have hd := document_of_reply he hs hp
  rw [hf] at hd
  exact expand_of_error hd

theorem Engine.polled_worldAt (he : e.expander = .process d ignoreUnknown)
    (hs : t.checkSource w.files = .ok ())
    (failed : w.FailsUntil (t.query d ignoreUnknown) retry k) :
    Polled (t.query d ignoreUnknown) retry w k (retry.worldAt (e.expand t) w k) := by
  refine Settle.polled_worldAt fun j hj v hp => ?_
  obtain ⟨f, hf⟩ := failed j hj
  rw [expand_of_failure he hs hp hf]

theorem Engine.isPassing_before (he : e.expander = .process d ignoreUnknown)
    (hs : t.checkSource w.files = .ok ())
    (failed : w.FailsUntil (t.query d ignoreUnknown) retry k) :
    ∀ j < k, isPassing (e.expand t (retry.worldAt (e.expand t) w j)).1 = true := by
  intro j hj
  obtain ⟨f, hf⟩ := failed j hj
  rw [expand_of_failure he hs (polled_worldAt he hs (failed.mono (Nat.le_of_lt hj))) hf]
  rfl

theorem Client.Uncancelled.undisturbed_expand (h : c.Uncancelled (t.query d ignoreUnknown) retry w)
    (hk : k ≤ retry.pauses) (he : e.expander = .process d ignoreUnknown)
    (hs : t.checkSource w.files = .ok ())
    (failed : w.FailsUntil (t.query d ignoreUnknown) retry k) :
    (c.pace retry).Undisturbed (e.expand t) w k := by
  refine ⟨e.expand_now t, h.calm, fun j hj hh => ?_⟩
  have only : ∀ i < j, ∀ v, Polled (t.query d ignoreUnknown) retry w i v →
      (e.expand t v).2 = (Action.issue (t.query d ignoreUnknown) v).2 := by
    intro i hi v hp
    obtain ⟨f, hf⟩ := failed i (by omega)
    rw [Engine.expand_of_failure he hs hp hf]
  have calm := h.calm_after_issue (by omega) only hh
  have hd := Engine.document_of_reply he hs (Settle.polled_worldAt only)
  cases hr : (w.replyAt (t.query d ignoreUnknown) retry j).result with
  | error f =>
    rw [hr] at hd
    exact (congrArg (fun x => x.2.cancelAt) (Engine.expand_of_error hd)).trans calm
  | ok document =>
    rw [hr] at hd
    exact (Engine.expand_of_ok hd).2.2.trans calm

/-- The first document is delivered, whatever failures came before. -/
theorem Client.delivers_of_reply {document : String}
    (h : c.Uncancelled (t.query d ignoreUnknown) retry w) (hk : k ≤ retry.pauses)
    (he : e.expander = .process d ignoreUnknown) (hs : t.checkSource w.files = .ok ())
    (failed : w.FailsUntil (t.query d ignoreUnknown) retry k)
    (hr : (w.replyAt (t.query d ignoreUnknown) retry k).result = .ok document) (verb : Verb) :
    ∃ v, Answered (t.query d ignoreUnknown) retry w k v ∧
      c.Delivers verb document v (e.written t document "json" w)
        (c.submitTemplate verb e t retry w).1 (c.submitTemplate verb e t retry w).2 := by
  have polled := Engine.polled_worldAt he hs failed
  have hd := Engine.document_of_reply he hs polled
  rw [hr] at hd
  rw [submitTemplate_of_last (h.undisturbed_expand hk he hs failed) hk
    (Engine.isPassing_before he hs failed) (.inr (Engine.expand_of_ok hd).1) verb]
  have answered := polled.issue
  refine ⟨_, answered, ?_⟩
  rw [← e.written_congr t document "json" answered.files answered.names]
  exact c.delivers_of_document verb hd

theorem Client.submitTemplate_of_failures {f : CommandFailure}
    (h : c.Uncancelled (t.query d ignoreUnknown) retry w)
    (he : e.expander = .process d ignoreUnknown) (hs : t.checkSource w.files = .ok ())
    (failed : w.FailsUntil (t.query d ignoreUnknown) retry retry.pauses)
    (hf : (w.replyAt (t.query d ignoreUnknown) retry retry.pauses).result = .error f)
    (verb : Verb) :
    (c.submitTemplate verb e t retry w).1 = .error (.template (.expansionFailed f)) ∧
      Answered (t.query d ignoreUnknown) retry w retry.pauses
        (c.submitTemplate verb e t retry w).2 := by
  have polled := Engine.polled_worldAt he hs failed
  have hd := Engine.document_of_reply he hs polled
  rw [hf] at hd
  rw [submitTemplate_of_last (h.undisturbed_expand (Nat.le_refl _) he hs failed) (Nat.le_refl _)
    (Engine.isPassing_before he hs failed) (.inl rfl) verb, deployOnce_of_error c verb hd]
  exact ⟨rfl, polled.issue⟩

end Process

/-! ## A whole run -/

/-- No cancellation that the client heeds is set when it begins to deploy a template in `w`, and no
answer to the engine's attempts sets one. -/
def Client.UncancelledWith (c : Client) (e : Engine) (t : Template) (retry : Policy)
    (w : World σ) : Prop :=
  match e.expander with
  | .substitution => (c.pace retry).Calm w
  | .process d ignoreUnknown => c.Uncancelled (t.query d ignoreUnknown) retry w

theorem Client.submitTemplate_substitution {c : Client} {e : Engine} {t : Template} {retry : Policy}
    {w : World σ} (he : e.expander = .substitution) (calm : (c.pace retry).Calm w) (verb : Verb) :
    c.submitTemplate verb e t retry w = c.deployOnce verb e t w := by
  have hd := Engine.document_of_substitution he t w
  cases ht : t.expandText w.files with
  | error cause =>
    rw [ht] at hd
    rw [submitTemplate_of_error calm hd (Template.expandText_error ht),
      deployOnce_of_error c verb hd]
  | ok document =>
    rw [ht] at hd
    obtain ⟨final, _, cancelAt⟩ := Engine.expand_of_ok hd
    exact submitTemplate_once calm final cancelAt verb

/-- A deployment that is not cancelled, with `apply` or `create`. The substitution engine is asked
once, and without a document nothing is changed. The process engine, when the source is there,
issues its command until it succeeds for the first time, and that document is delivered; when all
attempts up to the deadline fail, the last failure is the result and no file is touched. -/
theorem Client.submitTemplate_run (c : Client) (verb : Verb) (e : Engine) (t : Template)
    (retry : Policy) (w : World σ) (uncancelled : c.UncancelledWith e t retry w) :
    let r := (c.submitTemplate verb e t retry w).1
    let w' := (c.submitTemplate verb e t retry w).2
    match e.expander with
    | .substitution =>
      c.submitTemplate verb e t retry w = c.deployOnce verb e t w ∧
        match t.expandText w.files with
        | .error cause => r = .error (.template cause) ∧ w' = w
        | .ok document => c.Delivers verb document w (e.written t document t.extension w) r w'
    | .process d ignoreUnknown =>
      match t.checkSource w.files with
      | .error cause => r = .error (.template cause) ∧ w' = w
      | .ok () =>
        let q := t.query d ignoreUnknown
        (∃ k ≤ retry.pauses, w.FailsUntil q retry k ∧
          ∃ document v, (w.replyAt q retry k).result = .ok document ∧ Answered q retry w k v ∧
            c.Delivers verb document v (e.written t document "json" w) r w') ∨
        w.FailsUntil q retry (retry.pauses + 1) ∧
          ∃ f, (w.replyAt q retry retry.pauses).result = .error f ∧
            r = .error (.template (.expansionFailed f)) ∧ Answered q retry w retry.pauses w' := by
  unfold UncancelledWith at uncancelled
  cases he : e.expander with
  | substitution =>
    rw [he] at uncancelled
    have once : c.submitTemplate verb e t retry w = c.deployOnce verb e t w :=
      submitTemplate_substitution he uncancelled verb
    have hd := Engine.document_of_substitution he t w
    refine ⟨once, ?_⟩
    rw [once]
    cases ht : t.expandText w.files with
    | error cause =>
      rw [ht] at hd
      rw [deployOnce_of_error c verb hd]
      exact ⟨rfl, rfl⟩
    | ok document =>
      rw [ht] at hd
      exact c.delivers_of_document verb hd
  | process d ignoreUnknown =>
    rw [he] at uncancelled
    cases hs : t.checkSource w.files with
    | error cause =>
      have hd := Engine.document_of_checkSource he hs
      rw [submitTemplate_of_error uncancelled.calm hd (Template.checkSource_error hs) verb]
      exact ⟨rfl, rfl⟩
    | ok u =>
      -- The command succeeds for a first time up to the deadline, or never.
      rcases w.failsUntil_or (t.query d ignoreUnknown) retry retry.pauses with
        failed | ⟨k, hk, failed, document, hr⟩
      · obtain ⟨f, hf⟩ := failed retry.pauses (Nat.lt_succ_self _)
        exact .inr ⟨failed, f, hf, submitTemplate_of_failures uncancelled he hs
          (failed.mono (Nat.le_succ _)) hf verb⟩
      · obtain ⟨v, answered, delivers⟩ := delivers_of_reply uncancelled hk he hs failed hr verb
        exact .inl ⟨k, hk, failed, document, v, hr, answered, delivers⟩

/-- A refusal, then a document whose file the cluster does not take because of a passing failure:
the file stays, and is not handed over again. -/
theorem Client.submitTemplate_run_refused :
    let c : Client := ⟨.admin, true⟩
    let e : Engine := ⟨.process c false, "/tmp"⟩
    let t : Template := ⟨"/dev/null", []⟩
    let w : World Rehearsal.Script :=
      { now := 0, cancelAt := none, log := [], files := .blank, names := .ofSeed 0 0
        cluster := ⟨[{ left := some 1, reply := ⟨.error (.ofClass .rejected "no"), false⟩ },
          { left := some 1, reply := ⟨.ok "kind: Pod", false⟩ },
          { reply := ⟨.error (.ofClass .transient "i/o timeout"), false⟩ }]⟩ }
    let path := "/tmp/null-.json"
    c.UncancelledWith e t (.ofSecs 3 7) w ∧
      (c.applyTemplate e t (.ofSecs 3 7) w).1 =
        .error (.ofSubmission (.ofClass (c.handing .apply path) .transient "i/o timeout") path) ∧
      (c.applyTemplate e t (.ofSecs 3 7) w).2.log =
        [c.handing .apply path, t.query c false, t.query c false] ∧
      (c.applyTemplate e t (.ofSecs 3 7) w).2.files.readText path = .ok "kind: Pod" := by
  intro c e t w path
  have hp : (Policy.ofSecs 3 7).pauses = 3 := by decide
  have hs : t.checkSource w.files = .ok () := by decide
  have uncancelled : c.UncancelledWith e t (.ofSecs 3 7) w := by
    intro _
    refine ⟨rfl, fun k hk => ?_⟩
    rw [hp] at hk
    match k, hk with
    | 0, _ | 1, _ | 2, _ | 3, _ => rfl
  have run := c.submitTemplate_run .apply e t (.ofSecs 3 7) w uncancelled
  have written : e.written t "kind: Pod" "json" w = .ok path := by
    simp only [c, e, t, w, path]
    rfl
  have first : (w.replyAt (t.query c false) (.ofSecs 3 7) 0).result =
      .error (.ofClass (t.query c false) .rejected "no") := rfl
  have second : (w.replyAt (t.query c false) (.ofSecs 3 7) 1).result = .ok "kind: Pod" := rfl
  simp only [e, hs] at run
  rcases run with ⟨k, _, failed, document, v, hr, answered, delivers⟩ | ⟨failed, _⟩
  · obtain rfl : k = 1 := by
      rcases Nat.lt_trichotomy k 1 with h | h | h
      · obtain rfl : k = 0 := by omega
        rw [first] at hr
        cases hr
      · exact h
      · obtain ⟨f, hf⟩ := failed 1 h
        rw [second] at hf
        cases hf
    rw [second] at hr
    cases hr
    have refusal : (Cluster.answer v.now (c.handing .apply path) v.cluster).1.result =
        .error (.ofClass (c.handing .apply path) .transient "i/o timeout") := by
      rw [answered.now, answered.cluster]
      rfl
    change c.Delivers .apply _ v (e.written t "kind: Pod" "json" w)
      (c.applyTemplate e t (.ofSecs 3 7) w).1 (c.applyTemplate e t (.ofSecs 3 7) w).2 at delivers
    rw [written] at delivers
    generalize c.applyTemplate e t (.ofSecs 3 7) w = x at delivers ⊢
    obtain ⟨r, w'⟩ := x
    cases delivers with
    | refused now log files answer =>
      rw [refusal] at answer
      cases answer
      refine ⟨uncancelled, rfl, ?_, files.reads⟩
      show w'.log = _
      rw [log, answered.log]
      rfl
    | accepted now log files answer =>
      rw [refusal] at answer
      cases answer
  · obtain ⟨f, hf⟩ := failed 1 (by rw [hp]; decide)
    rw [second] at hf
    cases hf

end Settle
