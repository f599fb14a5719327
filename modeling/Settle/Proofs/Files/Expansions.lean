import Settle.Proofs.Deployment
import Settle.Rehearsal.Cluster

/-!
# Expansions, one after another

An expansion for which no document comes about leaves files, directories and the source of names as
they were, and one that succeeds has created the file of its manifest (`Engine.expand_leaves`). What
an expansion does depends on nothing else than these, on the clock and on the cluster that answers
it (`World.Alike`). So in a sequence of expansions those without a document can be left out
(`Engine.expandAll_withDocument`).
-/

namespace Settle

variable {σ : Type}

/-- Whether the error says that no document came about: the source is missing, cannot be read, has a
placeholder without a value, or the command that expands it failed. -/
def Error.lacksDocument : Error → Bool
  | .template (.sourceNotFound _) | .template (.read _ _)
  | .template (.unresolvedPlaceholder _ _) | .template (.expansionFailed _) => true
  | _ => false

/-- The worlds show the same time, files and source of names. -/
structure World.Alike (v w : World σ) : Prop where
  now : v.now = w.now
  files : v.files = w.files
  names : v.names = w.names

namespace World.Alike

theorem refl (w : World σ) : w.Alike w := ⟨rfl, rfl, rfl⟩

theorem trans {u v w : World σ} (h : u.Alike v) (h' : v.Alike w) : u.Alike w :=
  ⟨h.now.trans h'.now, h.files.trans h'.files, h.names.trans h'.names⟩

theorem symm {v w : World σ} (h : v.Alike w) : w.Alike v :=
  ⟨h.now.symm, h.files.symm, h.names.symm⟩

end World.Alike

/-- Two runs gave the same result and ended in worlds that are alike. -/
def World.SameEnd {α : Type} (x y : α × World σ) : Prop := x.1 = y.1 ∧ x.2.Alike y.2

theorem World.SameEnd.bind {α β : Type} {x : Action σ α} {f : α → Action σ β} {v w : World σ}
    (h : SameEnd (x v) (x w))
    (next : ∀ a {v' w' : World σ}, v'.Alike w' → SameEnd (f a v') (f a w')) :
    SameEnd ((x >>= f) v) ((x >>= f) w) := by
  rw [Action.bind_apply, Action.bind_apply, h.1]
  exact next _ h.2

/-! ## What one expansion depends on -/

open World (SameEnd)

theorem Scratch.write_alike (root stem extension contents : String) {v w : World σ}
    (h : v.Alike w) :
    SameEnd (write root stem extension contents v) (write root stem extension contents w) := by
  unfold write
  rw [h.files, h.names]
  split
  · exact ⟨rfl, h.now, rfl, rfl⟩
  · exact ⟨rfl, h.now, rfl, rfl⟩

variable [Cluster σ]

theorem Engine.document_alike (e : Engine) (t : Template) {v w : World σ} (h : v.Alike w)
    (cluster : v.cluster = w.cluster) : SameEnd (e.document t v) (e.document t w) := by
  cases he : e.expander with
  | substitution =>
    rw [document_of_substitution he, document_of_substitution he, h.files]
    exact ⟨rfl, h⟩
  | process d ignoreUnknown =>
    cases hs : t.checkSource w.files with
    | error cause =>
      rw [document_of_checkSource he hs, document_of_checkSource he (by rw [h.files]; exact hs)]
      exact ⟨rfl, h⟩
    | ok u =>
      rw [document_of_process he hs, document_of_process he (by rw [h.files]; exact hs)]
      refine ⟨?_, ?_, ?_, ?_⟩
      · simp only [Action.issue_fst, h.now, cluster]
      · simp only [Action.issue_now, h.now]
      · simp only [Action.issue_files, h.files]
      · simp only [Action.issue_names, h.names]

theorem Engine.expand_alike (e : Engine) (t : Template) {v w : World σ} (h : v.Alike w)
    (cluster : v.cluster = w.cluster) : SameEnd (e.expand t v) (e.expand t w) := by
  refine .bind (e.document_alike t h cluster) fun r _ _ h' => ?_
  cases r with
  | error cause => exact ⟨rfl, h'⟩
  | ok found =>
    refine .bind (Scratch.write_alike e.scratch t.stem found.2 found.1 h') fun r _ _ h'' => ?_
    cases r <;> exact ⟨rfl, h''⟩

/-! ## What one expansion leaves -/

theorem Engine.document_leaves (e : Engine) (t : Template) (w : World σ) :
    (e.document t w).2.Alike w := by
  cases he : e.expander with
  | substitution =>
    rw [document_of_substitution he]
    exact .refl w
  | process d ignoreUnknown =>
    cases hs : t.checkSource w.files with
    | error cause =>
      rw [document_of_checkSource he hs]
      exact .refl w
    | ok u =>
      rw [document_of_process he hs]
      exact ⟨Action.issue_now _ w, Action.issue_files _ w, Action.issue_names _ w⟩

/-- What is left by an expansion: the one new file of its manifest, or nothing but directories, and
not even those for want of a document. -/
def Engine.Leaves (v w : World σ) : Except Error Manifest → Prop
  | .ok m => (∀ n, v.files.stat m.path ≠ .ok n) ∧ v.files.CreatesFile w.files m.path m.document
  | .error e => (e.lacksDocument = true → w.Alike v) ∧ v.files.AddsDirectories w.files

theorem Engine.expand_leaves (e : Engine) (t : Template) (w : World σ) :
    Leaves w (e.expand t w).2 (e.expand t w).1 := by
  have alike := e.document_leaves t w
  rcases hd : e.document t w with ⟨cause | ⟨document, extension⟩, v⟩ <;> rw [hd] at alike
  · have same : v.files = w.files := alike.files
    rw [expand_of_error hd]
    refine ⟨fun _ => alike, ?_⟩
    rw [same]
    exact .refl w.files
  · obtain ⟨files, names, left, expanded⟩ := expand_of_document hd
    have same : v.files = w.files := alike.files
    rw [expanded]
    rw [same] at left
    cases hw : e.written t document extension v with
    | ok path =>
      rw [hw] at left
      exact ⟨FileSystem.CreatesFile.stat_ne_ok left, left⟩
    | error cause =>
      rw [hw] at left
      obtain ⟨⟨path, reason, rfl⟩, added⟩ := left
      exact ⟨nofun, added⟩

/-! ## Sequences of expansions -/

/-- An expansion to be made, and the state of the cluster that it meets. -/
structure Expansion (σ : Type) where
  template : Template
  cluster : σ

def Engine.expandIn (e : Engine) (x : Expansion σ) : Action σ (Except Error Manifest) := fun w =>
  e.expand x.template { w with cluster := x.cluster }

def Engine.expandAll (e : Engine) (xs : List (Expansion σ)) :
    Action σ (List (Except Error Manifest)) := xs.mapM e.expandIn

/-- Whether an expansion failed for want of a document. -/
def lacksDocument : Except Error Manifest → Bool
  | .ok _ => false
  | .error e => e.lacksDocument

/-- The expansions that did not fail for want of a document, with what they gave. -/
def withDocument (xs : List (Expansion σ)) (results : List (Except Error Manifest)) :
    List (Expansion σ × Except Error Manifest) :=
  (xs.zip results).filter fun x => !lacksDocument x.2

theorem Engine.expandIn_alike (e : Engine) (x : Expansion σ) {v w : World σ} (h : v.Alike w) :
    SameEnd (e.expandIn x v) (e.expandIn x w) :=
  e.expand_alike x.template (v := { v with cluster := x.cluster })
    (w := { w with cluster := x.cluster }) ⟨h.now, h.files, h.names⟩ rfl

theorem Engine.expandAll_alike (e : Engine) (xs : List (Expansion σ)) {v w : World σ}
    (h : v.Alike w) : SameEnd (e.expandAll xs v) (e.expandAll xs w) := by
  induction xs generalizing v w with
  | nil => exact ⟨rfl, h⟩
  | cons x xs ih =>
    unfold expandAll
    rw [List.mapM_cons]
    refine .bind (e.expandIn_alike x h) fun r _ _ h' => .bind (ih h') fun rs _ _ h'' => ?_
    exact ⟨rfl, h''⟩

theorem Engine.expandAll_cons (e : Engine) (x : Expansion σ) (xs : List (Expansion σ))
    (w : World σ) :
    e.expandAll (x :: xs) w =
      ((e.expandIn x w).1 :: (e.expandAll xs (e.expandIn x w).2).1,
        (e.expandAll xs (e.expandIn x w).2).2) := by
  unfold expandAll
  rw [List.mapM_cons]
  rfl

theorem Engine.alike_of_lacksDocument {e : Engine} {x : Expansion σ} {w : World σ}
    (h : lacksDocument (e.expandIn x w).1 = true) : (e.expandIn x w).2.Alike w := by
  have left := e.expand_leaves x.template { w with cluster := x.cluster }
  change Leaves _ (e.expandIn x w).2 (e.expandIn x w).1 at left
  generalize (e.expandIn x w).1 = r at h left
  cases r with
  | ok m => cases h
  | error cause =>
    have alike := left.1 h
    exact ⟨alike.now, alike.files, alike.names⟩

/-- Expansions without a document can be left out of a sequence: the others give what they gave, and
leave the same files and names. -/
theorem Engine.expandAll_withDocument (e : Engine) (xs : List (Expansion σ)) (w : World σ) :
    SameEnd (e.expandAll ((withDocument xs (e.expandAll xs w).1).map Prod.fst) w)
      ((withDocument xs (e.expandAll xs w).1).map Prod.snd, (e.expandAll xs w).2) := by
  induction xs generalizing w with
  | nil => exact ⟨rfl, .refl w⟩
  | cons x xs ih =>
    rw [expandAll_cons]
    have rest := ih (e.expandIn x w).2
    cases hl : lacksDocument (e.expandIn x w).1 with
    | true =>
      have dropped : withDocument (x :: xs) ((e.expandIn x w).1 ::
          (e.expandAll xs (e.expandIn x w).2).1) =
          withDocument xs (e.expandAll xs (e.expandIn x w).2).1 := by
        simp [withDocument, hl]
      have moved := e.expandAll_alike
        ((withDocument xs (e.expandAll xs (e.expandIn x w).2).1).map Prod.fst)
        (alike_of_lacksDocument hl).symm
      rw [dropped]
      exact ⟨moved.1.trans rest.1, moved.2.trans rest.2⟩
    | false =>
      have kept : withDocument (x :: xs) ((e.expandIn x w).1 ::
          (e.expandAll xs (e.expandIn x w).2).1) =
          (x, (e.expandIn x w).1) :: withDocument xs (e.expandAll xs (e.expandIn x w).2).1 := by
        simp [withDocument, hl]
      rw [kept, List.map_cons, List.map_cons, expandAll_cons]
      exact ⟨congrArg (_ :: ·) rest.1, rest.2⟩

/-- An expansion that fails for want of a document leaves all files, all directories and the source
of names as they were; one that succeeds adds one file, at the path of its manifest, where nothing
was, and the file holds the document. So when the expansions of a sequence that fail for want of a
document are left out, with what the cluster answered to them, all others give the same manifests
and errors, and in the end there are the same files and names. -/
theorem Engine.failures_leave_no_trace (e : Engine) :
    (∀ (t : Template) (w : World σ),
      match (e.expand t w).1 with
      | .ok m => (∀ n, w.files.stat m.path ≠ .ok n) ∧
        w.files.CreatesFile (e.expand t w).2.files m.path m.document
      | .error cause => cause.lacksDocument = true →
        (e.expand t w).2.files = w.files ∧ (e.expand t w).2.names = w.names) ∧
    ∀ (xs : List (Expansion σ)) (w : World σ),
      let run := e.expandAll xs w
      let kept := withDocument xs run.1
      (e.expandAll (kept.map Prod.fst) w).1 = kept.map Prod.snd ∧
        (e.expandAll (kept.map Prod.fst) w).2.files = run.2.files ∧
        (e.expandAll (kept.map Prod.fst) w).2.names = run.2.names := by
  constructor
  · intro t w
    have left := e.expand_leaves t w
    generalize (e.expand t w).1 = r at left
    cases r with
    | ok m => exact left
    | error cause =>
      intro lacks
      exact ⟨(left.1 lacks).files, (left.1 lacks).names⟩
  · intro xs w
    obtain ⟨results, alike⟩ := e.expandAll_withDocument xs w
    exact ⟨results, alike.files, alike.names⟩

/-- A command that fails, and then an expansion that goes well: without the first one the second
one draws the same name and leaves the same files. -/
theorem Engine.failures_leave_no_trace_of_command :
    let e : Engine := ⟨.process ⟨.admin, false⟩ false, "/tmp"⟩
    let t : Template := ⟨"/dev/null", []⟩
    let failing : Expansion Rehearsal.Script :=
      ⟨t, ⟨[{ reply := ⟨.error (.ofClass .transient "i/o timeout"), false⟩ }]⟩⟩
    let good : Expansion Rehearsal.Script := ⟨t, .always "kind: Pod"⟩
    let w : World Rehearsal.Script :=
      { now := 0, cancelAt := none, log := [], files := .blank, names := .ofSeed 0 0
        cluster := failing.cluster }
    (∃ cause, (e.expand t w).1 = .error cause ∧ cause.lacksDocument = true) ∧
      (e.expand t w).2.files = w.files ∧
      (e.expandAll [good] w).1 = [.ok ⟨"/tmp/null-.json", "kind: Pod"⟩] ∧
      (e.expandAll [good] w).2.files = (e.expandAll [failing, good] w).2.files := by
  intro e t failing good w
  obtain ⟨alone, together⟩ := e.failures_leave_no_trace (σ := Rehearsal.Script)
  have hs : t.checkSource w.files = .ok () := by decide
  have failed : (e.expandIn failing w).1 = .error (.template (.expansionFailed
      (.ofClass (t.query ⟨.admin, false⟩ false) .transient "i/o timeout"))) := by
    have refused : (e.document t w).1 = .error (.expansionFailed
        (.ofClass (t.query ⟨.admin, false⟩ false) .transient "i/o timeout")) := by
      rw [document_of_process rfl hs]
      rfl
    exact congrArg Prod.fst (expand_of_error (Prod.ext refused rfl))
  have made : (e.expandIn good w).1 = .ok ⟨"/tmp/null-.json", "kind: Pod"⟩ := by
    have answered : e.document t { w with cluster := good.cluster } = (.ok ("kind: Pod", "json"),
        (Action.issue (t.query ⟨.admin, false⟩ false) { w with cluster := good.cluster }).2) := by
      rw [document_of_process (w := { w with cluster := good.cluster }) rfl hs]
      rfl
    have written : e.written t "kind: Pod" "json" (Action.issue (t.query ⟨.admin, false⟩ false)
        { w with cluster := good.cluster }).2 = .ok "/tmp/null-.json" := by
      decide +kernel
    obtain ⟨_, _, _, expanded⟩ := expand_of_document answered
    rw [written] at expanded
    exact congrArg Prod.fst expanded
  have kept : withDocument [failing, good] (e.expandAll [failing, good] w).1 =
      [(good, .ok ⟨"/tmp/null-.json", "kind: Pod"⟩)] := by
    have alike := alike_of_lacksDocument (e := e) (x := failing) (w := w) (by rw [failed]; rfl)
    rw [expandAll_cons, expandAll_cons, failed, (e.expandIn_alike good alike).1, made]
    rfl
  have left := alone t w
  change (e.expand t w).1 = _ at failed
  rw [failed] at left
  obtain ⟨results, files, _⟩ := together [failing, good] w
  rw [kept] at results files
  exact ⟨⟨_, failed, rfl⟩, (left rfl).1, results, files⟩

end Settle
