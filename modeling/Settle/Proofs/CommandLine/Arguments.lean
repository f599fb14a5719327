import Settle.CommandLine.Run
import Settle.Rehearsal.Transcript

/-!
# Arguments that are refused

What may be wrong with a request although its command line could be read: its configuration file
cannot be loaded, or its task has seconds that are no duration where they count, an object to wait
for without a kind, a pattern that cannot be read, or no demand (`Request.Faulty`). A plan is made
of a request unless it is faulty (`Request.plan_error_iff`), and without a plan nothing is done.
-/

namespace Settle

open Number (Binary64 nearest)

namespace Duration

/-- Seconds that are no duration: negative ones, no number, and too many. From half a nanosecond
below `2 ^ 64` seconds they are too many, as this is rounded up. -/
inductive Unfit : Binary64 → Prop where
  | nan : Unfit .nan
  | infinite (negative : Bool) : Unfit (.infinite negative)
  | negative {m : Nat} (e : Int) (h : m ≠ 0) : Unfit (.finite true m e)
  | tooLarge (negative : Bool) {m : Nat} {e : Int}
      (h : (2 * limit - 1) * (Binary64.ratio m e).2 ≤ 2 * ((Binary64.ratio m e).1 * 1000000000)) :
      Unfit (.finite negative m e)

theorem limit_le_nearest_iff {num den : Nat} (pos : 0 < den) :
    limit ≤ nearest num den ↔ (2 * limit - 1) * den ≤ 2 * num :=
  Number.succ_le_nearest_iff (n := 2 ^ 64 * 1000000000 - 1) pos (by decide)

theorem ofBinary64_error_iff {seconds : Binary64} :
    (∃ cause, ofBinary64 seconds = .error cause) ↔ Unfit seconds := by
  cases seconds with
  | nan => exact iff_of_true ⟨_, rfl⟩ .nan
  | infinite negative => exact iff_of_true ⟨_, rfl⟩ (.infinite negative)
  | finite negative m e =>
    have large : limit ≤ nearest ((Binary64.ratio m e).1 * 1000000000) (Binary64.ratio m e).2 ↔ _ :=
      limit_le_nearest_iff (Binary64.ratio_den_pos m e)
    simp only [ofBinary64]
    split
    · rename_i below
      obtain ⟨rfl, nonzero⟩ : negative = true ∧ m ≠ 0 := by simpa using below
      exact iff_of_true ⟨_, rfl⟩ (.negative e nonzero)
    · rename_i above
      split
      · rename_i fits
        refine iff_of_false nofun fun unfit => ?_
        cases unfit with
        | negative _ nonzero => exact above (by simp [nonzero])
        | tooLarge _ h => exact Nat.not_lt.mpr (large.mpr h) fits
      · rename_i unfit
        exact iff_of_true ⟨_, rfl⟩ (.tooLarge negative (large.mp (Nat.le_of_not_lt unfit)))

end Duration

namespace CommandLine

/-! ## What may be wrong with a request -/

/-- One of the two numbers of seconds is no duration. -/
inductive Pacing.Unfit (p : Pacing) : Prop where
  | interval {seconds : Binary64} (given : p.interval = some seconds)
      (h : Duration.Unfit seconds) : Unfit p
  | timeout {seconds : Binary64} (given : p.timeout = some seconds)
      (h : Duration.Unfit seconds) : Unfit p

def Task.pacing? : Task → Option Pacing
  | .exists _ | .get _ _ _ => none
  | .awaitPresence _ p | .awaitAbsence _ p | .awaitRollout _ p | .awaitPods _ p
  | .awaitField _ _ _ p | .awaitLog _ _ _ p => some p
  | .delete _ await p => if await then some p else none
  | .apply _ _ _ awaited p => awaited.map fun _ => p
  | .list _ _ _ atLeast p => atLeast.map fun _ => p

/-- Nothing is demanded, or a pattern that cannot be read. A pattern counts when nothing that goes
before it is demanded. -/
inductive Demand.Faulty : Demand → Prop where
  | pattern {source : String} (nonBlank : Bool) (h : Regex.compile? source = none) :
      Faulty ⟨none, none, none, none, some source, nonBlank⟩
  | missing : Faulty ⟨none, none, none, none, none, false⟩

/-- A task with arguments that do not do. -/
inductive Task.Faulty : Task → Prop where
  | pacing {task : Task} {p : Pacing} (waits : task.pacing? = some p) (h : p.Unfit) : Faulty task
  | awaited (source : String) (params : List (String × String)) (process : Bool) {text : String}
      (p : Pacing) (h : '/' ∉ text.toList) : Faulty (.apply source params process (some text) p)
  | pattern (target : Target) {source : String} (container : Option String) (p : Pacing)
      (h : Regex.compile? source = none) : Faulty (.awaitLog target source container p)
  | demand (target : Target) (path : String) {d : Demand} (p : Pacing) (h : d.Faulty) :
      Faulty (.awaitField target path d p)

/-- A request that cannot be carried out, whatever the cluster is like. -/
inductive Request.Faulty (env : Config.Environment) (files : FileSystem) (r : Request) : Prop where
  | config {path : String} {cause : ConfigError} (given : r.config = some path)
      (h : Config.load env files path = .error cause) : Faulty env files r
  | task (h : r.task.Faulty) : Faulty env files r

/-! ## Whether a plan is made -/

theorem error_of_bind {ε α β : Type} {x : Except ε α} {f : α → Except ε β} {e : ε}
    (h : x >>= f = .error e) : x = .error e ∨ ∃ a, x = .ok a ∧ f a = .error e := by
  cases x with
  | error cause =>
    cases h
    exact .inl rfl
  | ok a => exact .inr ⟨a, rfl, h⟩

theorem error_of_map {ε α β : Type} {x : Except ε α} {f : α → β} {e : ε}
    (h : f <$> x = .error e) : x = .error e := by
  cases x with
  | error cause =>
    cases h
    rfl
  | ok a => cases h

namespace Plan

theorem duration_error_iff (default : Duration) (given : Option Binary64) :
    (∃ fault, duration default given = .error fault) ↔
      ∃ seconds, given = some seconds ∧ Duration.Unfit seconds := by
  cases given with
  | none => exact iff_of_false nofun nofun
  | some seconds =>
    simp only [Option.some.injEq, exists_eq_left', ← Duration.ofBinary64_error_iff, duration]
    cases Duration.ofBinary64 seconds with
    | error cause => exact iff_of_true ⟨_, rfl⟩ ⟨_, rfl⟩
    | ok d => exact iff_of_false (fun ⟨_, h⟩ => nomatch h) (fun ⟨_, h⟩ => nomatch h)

theorem policy_error_iff (base : Policy) (p : Pacing) :
    (∃ fault, policy base p = .error fault) ↔ p.Unfit := by
  have interval := duration_error_iff base.interval p.interval
  have timeout := duration_error_iff base.timeout p.timeout
  unfold policy
  constructor
  · rintro ⟨fault, failed⟩
    obtain failed | ⟨d, -, failed⟩ := error_of_bind failed
    · obtain ⟨seconds, given, h⟩ := interval.mp ⟨fault, failed⟩
      exact .interval given h
    · obtain failed | ⟨d', -, failed⟩ := error_of_bind failed
      · obtain ⟨seconds, given, h⟩ := timeout.mp ⟨fault, failed⟩
        exact .timeout given h
      · cases failed
  · rintro (⟨given, h⟩ | ⟨given, h⟩)
    · obtain ⟨fault, failed⟩ := interval.mpr ⟨_, given, h⟩
      rw [failed]
      exact ⟨fault, rfl⟩
    · obtain ⟨fault, failed⟩ := timeout.mpr ⟨_, given, h⟩
      rw [failed]
      cases duration base.interval p.interval <;> exact ⟨_, rfl⟩

theorem regex_error_iff (source : String) :
    (∃ fault, regex source = .error fault) ↔ Regex.compile? source = none := by
  unfold regex
  cases Regex.compile? source with
  | none => exact iff_of_true ⟨_, rfl⟩ rfl
  | some r => exact iff_of_false nofun nofun

theorem faulty_of_expectation {fault : Fault} :
    ∀ {d : Demand}, expectation d = .error fault → d.Faulty
  | ⟨some _, _, _, _, _, _⟩, h => nomatch h
  | ⟨none, some _, _, _, _, _⟩, h => nomatch h
  | ⟨none, none, some _, _, _, _⟩, h => nomatch h
  | ⟨none, none, none, some _, _, _⟩, h => nomatch h
  | ⟨none, none, none, none, some source, nonBlank⟩, h => by
    cases hr : regex source with
    | error cause => exact .pattern nonBlank ((regex_error_iff source).mp ⟨cause, hr⟩)
    | ok r =>
      simp only [expectation, hr] at h
      cases h
  | ⟨none, none, none, none, none, true⟩, h => nomatch h
  | ⟨none, none, none, none, none, false⟩, _ => .missing

theorem expectation_faulty {d : Demand} (h : d.Faulty) : ∃ fault, expectation d = .error fault := by
  cases h with
  | pattern nonBlank h =>
    obtain ⟨fault, failed⟩ := (regex_error_iff _).mpr h
    exact ⟨fault, by simp [expectation, failed, Except.map]⟩
  | missing => exact ⟨_, rfl⟩

theorem faulty_of_ofTask {c : Config} {client : Client} {scope : Option String} {task : Task}
    {fault : Fault} (failed : ofTask c client scope task = .error fault) : task.Faulty := by
  have unfit {p : Pacing} {fault : Fault} (h : policy c.policies.resource p = .error fault) :
      p.Unfit := (policy_error_iff _ p).mp ⟨fault, h⟩
  cases task with
  | «exists» | get => cases failed
  | awaitPresence | awaitAbsence | awaitRollout | awaitPods =>
    obtain failed | ⟨_, -, failed⟩ := error_of_bind failed
    · exact .pacing rfl (unfit failed)
    · cases failed
  | awaitField target path demand p =>
    obtain failed | ⟨_, -, failed⟩ := error_of_bind failed
    · exact .demand target path p (faulty_of_expectation failed)
    · obtain failed | ⟨_, -, failed⟩ := error_of_bind failed
      · exact .pacing rfl (unfit failed)
      · cases failed
  | delete target await p =>
    cases await with
    | false => cases failed
    | true =>
      obtain failed | ⟨_, -, failed⟩ := error_of_bind failed
      · exact .pacing rfl (unfit failed)
      · cases failed
  | apply source params process awaited p =>
    cases awaited with
    | none => cases failed
    | some text =>
      obtain failed | ⟨_, -, failed⟩ := error_of_bind failed
      · cases hs : Text.splitOnce '/' text with
        | none => exact .awaited source params process p (Text.splitOnce_eq_none.mp hs)
        | some parts =>
          simp only [Option.mapM_some, hs] at failed
          obtain failed | ⟨_, -, failed⟩ := error_of_bind (error_of_map failed)
          · exact .pacing rfl (unfit failed)
          · cases failed
      · cases failed
  | list kind labels byCreation atLeast p =>
    cases atLeast with
    | none => cases failed
    | some n =>
      obtain failed | ⟨_, -, failed⟩ := error_of_bind failed
      · rw [Option.mapM_some] at failed
        obtain failed | ⟨_, -, failed⟩ := error_of_bind (error_of_map failed)
        · exact .pacing rfl (unfit failed)
        · cases failed
      · cases failed
  | awaitLog target source container p =>
    obtain failed | ⟨_, -, failed⟩ := error_of_bind failed
    · exact .pattern target container p ((regex_error_iff source).mp ⟨fault, failed⟩)
    · obtain failed | ⟨_, -, failed⟩ := error_of_bind failed
      · exact .pacing rfl (unfit failed)
      · cases failed

theorem ofTask_pacing (c : Config) (client : Client) (scope : Option String) {task : Task}
    {p : Pacing} (waits : task.pacing? = some p) (h : p.Unfit) :
    ∃ fault, ofTask c client scope task = .error fault := by
  obtain ⟨fault, refused⟩ := (policy_error_iff c.policies.resource p).mpr h
  cases task with
  | «exists» | get => cases waits
  | awaitPresence | awaitAbsence | awaitRollout | awaitPods =>
    cases waits
    simp only [ofTask, refused]
    exact ⟨_, rfl⟩
  | awaitField target path demand =>
    cases waits
    simp only [ofTask, refused]
    cases expectation demand <;> exact ⟨_, rfl⟩
  | delete target await =>
    cases await <;> cases waits
    simp only [ofTask, refused]
    exact ⟨_, rfl⟩
  | apply source params process awaited =>
    cases awaited <;> cases waits
    rename_i text
    simp only [ofTask, Option.mapM_some]
    cases Text.splitOnce '/' text with
    | none => exact ⟨_, rfl⟩
    | some parts =>
      simp only [refused]
      exact ⟨_, rfl⟩
  | list kind labels byCreation atLeast =>
    cases atLeast <;> cases waits
    simp only [ofTask, Option.mapM_some, refused]
    exact ⟨_, rfl⟩
  | awaitLog target source container =>
    cases waits
    simp only [ofTask, refused]
    cases regex source <;> exact ⟨_, rfl⟩

theorem ofTask_error_iff (c : Config) (client : Client) (scope : Option String) (task : Task) :
    (∃ fault, ofTask c client scope task = .error fault) ↔ task.Faulty := by
  constructor
  · rintro ⟨fault, failed⟩
    exact faulty_of_ofTask failed
  · intro h
    cases h with
    | pacing waits h => exact ofTask_pacing c client scope waits h
    | awaited source params process p h =>
      simp only [ofTask, Option.mapM_some, Text.splitOnce_eq_none.mpr h]
      exact ⟨_, rfl⟩
    | pattern target container p h =>
      obtain ⟨fault, failed⟩ := (regex_error_iff _).mpr h
      simp only [ofTask, failed]
      exact ⟨_, rfl⟩
    | demand target path p h =>
      obtain ⟨fault, failed⟩ := expectation_faulty h
      simp only [ofTask, failed]
      exact ⟨_, rfl⟩

end Plan

theorem configure_error_iff (env : Config.Environment) (files : FileSystem) (file : Option String) :
    (∃ fault, configure env files file = .error fault) ↔
      ∃ path cause, file = some path ∧ Config.load env files path = .error cause := by
  cases file with
  | none => exact iff_of_false nofun nofun
  | some path =>
    cases hl : Config.load env files path with
    | error cause =>
      exact iff_of_true ⟨.config path, by simp only [configure, hl]⟩ ⟨path, cause, rfl, hl⟩
    | ok c =>
      constructor
      · rintro ⟨fault, failed⟩
        simp only [configure, hl] at failed
        cases failed
      · rintro ⟨_, cause, ⟨⟩, failed⟩
        rw [hl] at failed
        cases failed

/-- A plan is made of a request unless it is faulty. -/
theorem Request.plan_error_iff (r : Request) (env : Config.Environment) (files : FileSystem) :
    (∃ fault, r.plan env files = .error fault) ↔ r.Faulty env files := by
  have configured := configure_error_iff env files r.config
  unfold plan
  constructor
  · rintro ⟨fault, failed⟩
    obtain failed | ⟨c, -, failed⟩ := error_of_bind failed
    · obtain ⟨path, cause, given, h⟩ := configured.mp ⟨fault, failed⟩
      exact .config given h
    · obtain failed | ⟨_, -, failed⟩ := error_of_bind failed
      · exact .task ((Plan.ofTask_error_iff _ _ _ _).mp ⟨fault, failed⟩)
      · cases failed
  · rintro (⟨given, h⟩ | h)
    · obtain ⟨fault, failed⟩ := configured.mpr ⟨_, _, given, h⟩
      rw [failed]
      exact ⟨fault, rfl⟩
    · cases configure env files r.config with
      | error fault => exact ⟨fault, rfl⟩
      | ok c =>
        obtain ⟨fault, failed⟩ :=
          (Plan.ofTask_error_iff c { account := r.account } r.scope r.task).mpr h
        exact ⟨fault, by simp [failed, bind, Except.bind]⟩

/-! ## Nothing is done -/

section

variable {η : Type} [Host η]

theorem Request.run_of_no_plan {r : Request} {site : Site η} {fault : Fault}
    (h : r.plan site.env site.files = .error fault) : r.run site = (.error fault, site) := by
  simp [run, h]

/-- A command line that is read as a request with faulty arguments ends with status 1 and a report,
without an answer. It leaves the files, the source of names and the machine as they were; as
this holds of every machine, and so of those that remember what they ran, no command is run. Of a
request without such a fault a plan is made. -/
theorem run_faulty (args : List String) (site : Site η) {r : Request}
    (read : Request.read (site.env.lookup "CONVERGE_CONFIG") args = .ok r) :
    (r.Faulty site.env site.files →
      ∃ report, run args site = ({ status := 1, stdout := "", report := some report }, site)) ∧
    (¬r.Faulty site.env site.files → ∃ c plan, r.plan site.env site.files = .ok (c, plan)) := by
  have planned := r.plan_error_iff site.env site.files
  constructor
  · intro h
    obtain ⟨fault, refused⟩ := planned.mpr h
    refine ⟨Text.trimEnd fault.report, ?_⟩
    simp [run, read, Request.run_of_no_plan refused, ending]
  · intro h
    cases hp : r.plan site.env site.files with
    | error fault => exact absurd (planned.mp ⟨fault, hp⟩) h
    | ok made => exact ⟨made.1, made.2, rfl⟩

end

/-- An object that was to be deleted is there still when the wait for its end has no duration. -/
theorem run_faulty_of_negative_timeout :
    let args := ["delete", "pod", "web", "--wait", "--timeout=-1"]
    let site : Site Rehearsal.Transcript :=
      { env := [], files := .blank, names := .ofSeed 0 8, host := { left := [{}] } }
    let r : Request :=
      { config := none, scope := none, account := .admin, format := .text
        task := .delete ⟨"pod", "web"⟩ true
          ⟨none, some (.finite true 4503599627370496 (-52))⟩ }
    Request.read (site.env.lookup "CONVERGE_CONFIG") args = .ok r ∧
      r.Faulty site.env site.files ∧
      ∃ report, run args site = ({ status := 1, stdout := "", report := some report }, site) := by
  intro args site r
  have read : Request.read (site.env.lookup "CONVERGE_CONFIG") args = .ok r := rfl
  have faulty : r.Faulty site.env site.files :=
    .task (.pacing rfl (.timeout rfl (.negative _ (by decide))))
  exact ⟨read, faulty, (run_faulty args site read).1 faulty⟩

end CommandLine

end Settle
