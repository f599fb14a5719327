import Settle.Proofs.Files.Creation
import Settle.Proofs.Files.Segments
import Settle.Scratch

/-!
# The search for a free name

A scratch file is written under the first of sixteen names that is not taken. A name is taken when
something is at its path, and this is just when a new file there fails for that reason
(`FileSystem.createFile_fileExists_iff`); so the search goes on past taken names and ends with the
first other one, whether or not a file can be created there (`Scratch.write_tries`).
-/

namespace Settle

namespace FileSystem

variable {fs : FileSystem} {path : String}

def Taken (fs : FileSystem) (path : String) : Prop := ∃ n, fs.stat path = .ok n

instance (fs : FileSystem) (path : String) : Decidable (fs.Taken path) :=
  match h : fs.stat path with
  | .ok n => isTrue ⟨n, h⟩
  | .error _ => isFalse fun ⟨n, hn⟩ => by cases h.symm.trans hn

/-! ## Files under proper names -/

/-- The path has a last segment that names something in a directory. -/
structure Named (path name : String) : Prop where
  segments : ∃ init, Path.segments path = init ++ [name]
  proper : ¬(name = "." ∨ name = "..")
  noSlash : Path.endsWithSlash path = false

theorem walk_dot_bind (fs : FileSystem) (p : Place) (init : List String) (name : String) :
    ((fs.walk p (init ++ ["."])).bind fun dir => fs.walk dir [name]) =
      fs.walk p (init ++ [name]) := by
  rw [walk_append, walk_append]
  cases fs.walk p init with
  | error e => rfl
  | ok dir =>
    show ((fs.walk dir ["."]).bind fun dir => fs.walk dir [name]) = fs.walk dir [name]
    cases he : fs.entry? dir with
    | none => simp [walk, he, Except.bind]
    | some n => cases n <;> simp [walk, he, Except.bind]

theorem createFile_eq {name : String} (named : Named path name) (contents : ByteArray) :
    fs.createFile path contents = (fs.locate path).bind fun p =>
      if (fs.entry? p).isSome then .error .fileExists else .ok (fs.put p (.file contents)) := by
  obtain ⟨init, segments⟩ := named.segments
  have place : fs.newPlace path =
      (checkPath path).bind fun _ =>
        (fs.walk (fs.start path) (init ++ ["."])).bind fun dir => .ok (dir, name) := by
    unfold newPlace
    simp only [segments, List.getLast?_concat, List.dropLast_concat, if_neg named.proper]
    rfl
  have located : fs.locate path =
      (checkPath path).bind fun _ =>
        (fs.walk (fs.start path) (init ++ ["."])).bind fun dir => fs.walk dir [name] := by
    unfold locate
    rw [segments, walk_dot_bind]
    rfl
  unfold createFile
  rw [place, located, named.noSlash]
  cases checkPath path with
  | error e => rfl
  | ok _ =>
    cases fs.walk (fs.start path) (init ++ ["."]) with
    | error e => rfl
    | ok dir =>
      simp only [bind, Except.bind, vacancy, Bool.false_eq_true, if_false]
      cases fs.walk dir [name] with
      | error e => rfl
      | ok p => cases he : fs.entry? p <;> simp [he, pure, Except.pure]

theorem walk_ne_fileExists (fs : FileSystem) (segments : List String) (p : Place) :
    fs.walk p segments ≠ .error .fileExists := by
  induction segments generalizing p with
  | nil => exact nofun
  | cons s rest ih =>
    unfold walk
    split
    · exact nofun
    · exact nofun
    · split
      · exact ih p
      · split
        · exact ih _
        · split
          · exact nofun
          · exact ih _

theorem locate_ne_fileExists (fs : FileSystem) (path : String) :
    fs.locate path ≠ .error .fileExists := by
  have check : checkPath path ≠ .error .fileExists := by
    unfold checkPath
    split
    · exact nofun
    · split
      · exact nofun
      · split <;> exact nofun
  unfold locate
  cases hc : checkPath path with
  | error e =>
    rintro ⟨⟩
    exact check hc
  | ok _ => exact fs.walk_ne_fileExists _ _

theorem taken_iff (noSlash : Path.endsWithSlash path = false) :
    fs.Taken path ↔ ∃ p, fs.locate path = .ok p ∧ (fs.entry? p).isSome = true := by
  constructor
  · rintro ⟨n, hn⟩
    obtain ⟨p, hl, he⟩ := stat_ok hn
    exact ⟨p, hl, by rw [he]; rfl⟩
  · rintro ⟨p, hl, he⟩
    obtain ⟨n, he⟩ := Option.isSome_iff_exists.mp he
    refine ⟨n, ?_⟩
    unfold stat
    simp only [hl, he, noSlash, bind, Except.bind]
    cases n <;> rfl

/-- That something is there keeps a file from being created, and nothing else is reported so. -/
theorem createFile_fileExists_iff {name : String} (named : Named path name)
    (contents : ByteArray) :
    fs.createFile path contents = .error .fileExists ↔ fs.Taken path := by
  rw [createFile_eq named, taken_iff named.noSlash]
  cases hl : fs.locate path with
  | error e =>
    have other : e ≠ .fileExists := fun h => fs.locate_ne_fileExists path (h ▸ hl)
    simp [Except.bind, other]
  | ok p => cases he : (fs.entry? p).isSome <;> simp [Except.bind, he]

/-! ## Directories that are there -/

theorem createDirectory_of_taken (h : fs.Taken path) :
    fs.createDirectory path = .error .fileExists := by
  obtain ⟨n, hn⟩ := h
  obtain ⟨p, hl, he⟩ := stat_ok hn
  obtain ⟨_, hc, hw⟩ := bind_ok hl
  unfold createDirectory newPlace
  rw [hc]
  simp only [bind, Except.bind]
  cases last : (Path.segments path).getLast? with
  | none => rfl
  | some name =>
    obtain ⟨init, segments⟩ := List.getLast?_eq_some_iff.mp last
    rw [segments, ← walk_dot_bind] at hw
    obtain ⟨dir, hd, hp⟩ := bind_ok hw
    simp only [segments, List.dropLast_concat, hd]
    by_cases dots : name = "." ∨ name = ".."
    · rw [if_pos dots]
    · rw [if_neg dots]
      simp [vacancy, hp, he, bind, Except.bind, pure, Except.pure]

theorem createDirectories_of_directory (h : fs.leadsToDirectory path = true) :
    fs.createDirectories path = (.ok (), fs) := by
  have taken : fs.Taken path := by
    unfold leadsToDirectory at h
    split at h
    · exact ⟨_, ‹_›⟩
    · cases h
  unfold createDirectories ancestors
  dsimp only
  split
  · rfl
  · rw [createMissing, createDirectory_of_taken taken]
    dsimp only
    rw [if_pos h]
    rfl

end FileSystem

/-! ## Suffixes -/

namespace Names

def drawn (n : Names) : Nat → Names
  | 0 => n
  | k + 1 => n.suffix.2.drawn k

theorem alphabet_getD_mem (i : Nat) : alphabet.getD i 'a' ∈ alphabet := by
  rw [List.getD_eq_getElem?_getD]
  cases drawn : alphabet[i]? with
  | none => decide
  | some c => exact List.mem_of_getElem? drawn

theorem mem_alphabet {count : Nat} {n : Names} {c : Char} (h : c ∈ (drawChars count n).1) :
    c ∈ alphabet := by
  induction count generalizing n with
  | zero => cases h
  | succ count ih =>
    rcases List.mem_cons.mp h with rfl | h
    · exact alphabet_getD_mem n.drawIndex.1
    · exact ih h

theorem slash_notMem_suffix (n : Names) : '/' ∉ n.suffix.1.toList := by
  intro slash
  have drawn : '/' ∈ (drawChars n.length n).1 := by simpa [suffix] using slash
  exact absurd (mem_alphabet drawn) (by decide)

end Names

/-! ## The search -/

namespace Scratch

variable {σ : Type} {root stem extension : String} {fs : FileSystem}

/-- The path that is tried when `k` suffixes have been drawn. -/
def candidate (root stem extension : String) (names : Names) (k : Nat) : String :=
  path root stem (names.drawn k).suffix.1 extension

/-- A stem and an extension without a slash make a proper name of every suffix. -/
theorem candidate_named (hs : '/' ∉ stem.toList) (he : '/' ∉ extension.toList) (names : Names)
    (k : Nat) : ∃ name, FileSystem.Named (candidate root stem extension names k) name := by
  have suffix := (names.drawn k).slash_notMem_suffix
  unfold candidate path
  generalize (names.drawn k).suffix.1 = s at suffix
  have dash : '-' ∈ (stem ++ "-" ++ s ++ "." ++ extension).toList := by simp
  have segment : Path.IsSegment (stem ++ "-" ++ s ++ "." ++ extension) :=
    ⟨fun empty => by simp [empty] at dash, by simp [hs, he, suffix]⟩
  refine ⟨_, ⟨_, Path.segments_join root segment⟩, ?_, Path.endsWithSlash_join root segment⟩
  rintro (dot | dots)
  · simp [dot] at dash
  · simp [dots] at dash

/-- What comes of one path: the file, or the failure to create it. -/
def attempt (fs : FileSystem) (path : String) (contents : ByteArray) (names : Names) :
    Except TemplateError String × FileSystem × Names :=
  match fs.createFile path contents with
  | .ok fs => (.ok path, fs, names)
  | .error e => (.error (.write path e), fs, names)

section Search

variable {contents : ByteArray} {names : Names}

theorem createFresh_zero :
    createFresh root stem extension contents 0 fs names =
      attempt fs (candidate root stem extension names 0) contents (names.drawn 1) := by
  rfl

theorem createFresh_succ_of_fileExists (fuel : Nat)
    (exist : fs.createFile (candidate root stem extension names 0) contents = .error .fileExists) :
    createFresh root stem extension contents (fuel + 1) fs names =
      createFresh root stem extension contents fuel fs (names.drawn 1) := by
  change fs.createFile (path root stem names.suffix.1 extension) contents = _ at exist
  change _ = createFresh root stem extension contents fuel fs names.suffix.2
  conv => lhs; unfold createFresh
  generalize names.suffix = drawn at exist ⊢
  dsimp only
  rw [exist]

theorem createFresh_succ_of_other (fuel : Nat)
    (other : fs.createFile (candidate root stem extension names 0) contents ≠
      .error .fileExists) :
    createFresh root stem extension contents (fuel + 1) fs names =
      attempt fs (candidate root stem extension names 0) contents (names.drawn 1) := by
  change fs.createFile (path root stem names.suffix.1 extension) contents ≠ _ at other
  change _ = attempt fs (path root stem names.suffix.1 extension) contents names.suffix.2
  unfold createFresh
  generalize names.suffix = drawn at other ⊢
  unfold attempt
  dsimp only
  cases created : fs.createFile (path root stem drawn.1 extension) contents with
  | ok fs' => rfl
  | error e =>
    rw [created] at other
    cases e with
    | fileExists => exact absurd rfl other
    | _ => rfl

variable (hs : '/' ∉ stem.toList) (he : '/' ∉ extension.toList)

include hs he

theorem createFile_candidate_iff (k : Nat) :
    fs.createFile (candidate root stem extension names k) contents = .error .fileExists ↔
      fs.Taken (candidate root stem extension names k) := by
  obtain ⟨name, named⟩ : ∃ name, FileSystem.Named (candidate root stem extension names k) name :=
    candidate_named hs he names k
  exact FileSystem.createFile_fileExists_iff named contents

theorem createFresh_of_free (fuel : Nat)
    (free : ¬ fs.Taken (candidate root stem extension names 0)) :
    createFresh root stem extension contents fuel fs names =
      attempt fs (candidate root stem extension names 0) contents (names.drawn 1) := by
  cases fuel with
  | zero => exact createFresh_zero
  | succ fuel =>
    exact createFresh_succ_of_other fuel (mt (createFile_candidate_iff hs he 0).mp free)

theorem createFresh_of_first_taken (fuel : Nat)
    (taken : fs.Taken (candidate root stem extension names 0)) :
    createFresh root stem extension contents (fuel + 1) fs names =
      createFresh root stem extension contents fuel fs (names.drawn 1) :=
  createFresh_succ_of_fileExists fuel ((createFile_candidate_iff hs he 0).mpr taken)

theorem createFresh_of_all_taken {fuel : Nat}
    (taken : ∀ k ≤ fuel, fs.Taken (candidate root stem extension names k)) :
    createFresh root stem extension contents fuel fs names =
      (.error (.write (candidate root stem extension names fuel) .fileExists), fs,
        names.drawn (fuel + 1)) := by
  induction fuel generalizing names with
  | zero =>
    rw [createFresh_zero, attempt,
      (createFile_candidate_iff hs he 0).mpr (taken 0 (Nat.le_refl 0))]
  | succ fuel ih =>
    rw [createFresh_of_first_taken hs he fuel (taken 0 (Nat.zero_le _))]
    exact ih fun k hk => taken (k + 1) (Nat.succ_le_succ hk)

/-- The search ends with the first name that is not taken. -/
theorem createFresh_of_first_free {fuel k : Nat} (hk : k ≤ fuel)
    (taken : ∀ j < k, fs.Taken (candidate root stem extension names j))
    (free : ¬ fs.Taken (candidate root stem extension names k)) :
    createFresh root stem extension contents fuel fs names =
      attempt fs (candidate root stem extension names k) contents (names.drawn (k + 1)) := by
  -- every name before the first free one takes one unit of the fuel
  induction k generalizing fuel names with
  | zero => exact createFresh_of_free hs he fuel free
  | succ k ih =>
    obtain ⟨fuel, rfl⟩ : ∃ m, fuel = m + 1 := ⟨fuel - 1, by omega⟩
    rw [createFresh_of_first_taken hs he fuel (taken 0 (Nat.succ_pos k))]
    exact ih (Nat.le_of_succ_le_succ hk) (fun j hj => taken (j + 1) (Nat.succ_lt_succ hj)) free

end Search

/-- With a directory at its root, a write draws suffixes until a name is not taken, sixteen at most.
When all are taken the last one is reported. The first name that is not taken is the last one that
is tried: either a file is created there, which can be read back and is all that is new, or the
failure to create it is reported, whatever it is. Names are taken by what is there once the root is;
a root that is there is left as it is. -/
theorem write_tries (root stem extension contents : String) (w : World σ) {files : FileSystem}
    (hs : '/' ∉ stem.toList) (he : '/' ∉ extension.toList)
    (made : w.files.createDirectories root = (.ok (), files)) :
    let P := candidate root stem extension w.names
    let after (files : FileSystem) (n : Nat) : World σ := { w with files, names := w.names.drawn n }
    (w.files.AddsDirectories files ∧
      (w.files.leadsToDirectory root = true → files = w.files)) ∧
    ((∀ k < 16, files.Taken (P k)) →
      write root stem extension contents w =
        (.error (.write (P 15) .fileExists), after files 16)) ∧
    ∀ k < 16, (∀ j < k, files.Taken (P j)) → ¬ files.Taken (P k) →
      (∀ e, files.createFile (P k) contents.toUTF8 = .error e →
        write root stem extension contents w = (.error (.write (P k) e), after files (k + 1))) ∧
      ∀ files', files.createFile (P k) contents.toUTF8 = .ok files' →
        write root stem extension contents w = (.ok (P k), after files' (k + 1)) ∧
          files'.readText (P k) = .ok contents ∧ files.Keeps files' ∧
          ∃ p, files'.locate (P k) = .ok p ∧ files.entry? p = none ∧
            ∀ q ≠ p, files'.entry? q = files.entry? q := by
  intro P after
  have run : write root stem extension contents w =
      let made := createFresh root stem extension contents.toUTF8 15 files w.names
      (made.1, { w with files := made.2.1, names := made.2.2 }) := by
    unfold write
    rw [made]
    rfl
  refine ⟨⟨?_, fun there => ?_⟩, fun taken => ?_, fun k hk taken free => ?_⟩
  · have adds := FileSystem.AddsDirectories.createDirectories w.files root
    rwa [made] at adds
  · rw [FileSystem.createDirectories_of_directory there] at made
    exact (congrArg Prod.snd made).symm
  · rw [run, createFresh_of_all_taken hs he fun k hk => taken k (Nat.lt_succ_of_le hk)]
  · rw [createFresh_of_first_free hs he (Nat.le_of_lt_succ hk) taken free] at run
    unfold attempt at run
    refine ⟨fun e failed => ?_, fun files' created => ?_⟩
    · rw [run, failed]
    · rw [created] at run
      have new := FileSystem.CreatesFile.of_createFile created
      obtain ⟨-, p, located, vacant, rfl⟩ := FileSystem.createFile_ok created
      refine ⟨run, new.reads, new.keeps, p, new.keeps.locate located, vacant, fun q hq => ?_⟩
      rw [FileSystem.entry_put _ _ _ _ (FileSystem.ne_nil_of_vacant vacant), if_neg hq]

/-- The first name that is tried belongs to a directory, the second one is free. -/
theorem write_tries_two :
    let w : World Unit :=
      { now := 0, cancelAt := none, log := [], names := .ofSeed 1 1, cluster := ()
        files := FileSystem.blank.put ["tmp", "pod-3.yaml"] .directory }
    let run := write "/tmp" "pod" "yaml" "kind: Pod" w
    run.1 = .ok "/tmp/pod-9.yaml" ∧ run.2.names = w.names.drawn 2 ∧
      run.2.files.readText "/tmp/pod-9.yaml" = .ok "kind: Pod" := by
  intro w run
  have first : candidate "/tmp" "pod" "yaml" w.names 0 = "/tmp/pod-3.yaml" := by decide +kernel
  have second : candidate "/tmp" "pod" "yaml" w.names 1 = "/tmp/pod-9.yaml" := by decide +kernel
  have made : w.files.createDirectories "/tmp" = (.ok (), w.files) :=
    FileSystem.createDirectories_of_directory (by decide +kernel)
  obtain ⟨-, -, tries⟩ := write_tries "/tmp" "pod" "yaml" "kind: Pod" w (by decide) (by decide) made
  have taken : ∀ j < 1, w.files.Taken (candidate "/tmp" "pod" "yaml" w.names j) := by
    intro j hj
    obtain rfl : j = 0 := by omega
    rw [first]
    decide +kernel
  have free : ¬ w.files.Taken (candidate "/tmp" "pod" "yaml" w.names 1) := by
    rw [second]
    decide +kernel
  obtain ⟨-, creates⟩ := tries 1 (by decide) taken free
  rw [second] at creates
  cases created : w.files.createFile "/tmp/pod-9.yaml" "kind: Pod".toUTF8 with
  | error e =>
    have possible : (w.files.createFile "/tmp/pod-9.yaml" "kind: Pod".toUTF8).isOk = true := by
      decide +kernel
    rw [created] at possible
    cases possible
  | ok files' =>
    obtain ⟨written, reads, -⟩ := creates files' created
    have written : run = _ := written
    rw [written]
    exact ⟨rfl, rfl, reads⟩

end Scratch

end Settle
