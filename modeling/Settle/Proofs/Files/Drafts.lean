import Mathlib.Data.List.Forall2
import Mathlib.Data.List.Nodup
import Settle.Proofs.Files.Scratch

/-!
# Scratch files, one after another

A run of writes starts from any files and any source of names, and some of its writes may fail. What
is there stays as it is, so a write finds all files taken that the writes before it made, and each
file holds to the end what was written to it. `LeavesAll` says what a run leaves; one write at its
head adds to that what `Leaves` says of it (`LeavesAll.cons`).
-/

namespace Settle.Scratch

variable {σ : Type}

/-- A text that is to be written below a directory. -/
structure Draft where
  root : String
  stem : String
  extension : String
  contents : String

def Draft.write (d : Draft) : Action σ (Except TemplateError String) :=
  Scratch.write d.root d.stem d.extension d.contents

def writeAll (drafts : List Draft) : Action σ (List (Except TemplateError String)) :=
  drafts.mapM Draft.write

def paths (results : List (Except TemplateError String)) : List String :=
  results.filterMap Except.toOption

/-- What a run of writes leaves: all that was there; each text, to be read at the path that its
write gave; a place of its own for each of these paths, where nothing was; and no other file. -/
structure LeavesAll (fs fs' : FileSystem) (drafts : List Draft)
    (results : List (Except TemplateError String)) : Prop where
  keeps : fs.Keeps fs'
  reads : List.Forall₂ (fun d r => ∀ path, r = .ok path → fs'.readText path = .ok d.contents)
    drafts results
  fresh : ∀ path ∈ paths results, ∃ p, fs'.locate path = .ok p ∧ fs.entry? p = none
  apart : ((paths results).map fs'.locate).Nodup
  only : ∀ q, fs'.file? q ≠ fs.file? q → ∃ path ∈ paths results, fs'.locate path = .ok q

namespace LeavesAll

variable {fs fs' fs'' : FileSystem} {d : Draft} {drafts : List Draft}
  {results : List (Except TemplateError String)}

theorem nil (fs : FileSystem) : LeavesAll fs fs [] [] where
  keeps := .refl fs
  reads := .nil
  fresh _ h := absurd h List.not_mem_nil
  apart := List.nodup_nil
  only _ h := absurd rfl h

theorem cons_error (h : fs.AddsDirectories fs') (run : LeavesAll fs' fs'' drafts results)
    (e : TemplateError) : LeavesAll fs fs'' (d :: drafts) (.error e :: results) where
  keeps := h.keeps.trans run.keeps
  reads := .cons nofun run.reads
  fresh path hm := by
    obtain ⟨p, hl, hp⟩ := run.fresh path hm
    exact ⟨p, hl, h.keeps.vacant hp⟩
  apart := run.apart
  only q hq := run.only q (by rwa [h.files])

theorem cons_ok {path : String} (h : fs.CreatesFile fs' path d.contents)
    (run : LeavesAll fs' fs'' drafts results) :
    LeavesAll fs fs'' (d :: drafts) (.ok path :: results) := by
  obtain ⟨p, hl, hp, ⟨n, he⟩, others⟩ := h.place
  have hl : fs''.locate path = .ok p := run.keeps.locate hl
  refine ⟨h.keeps.trans run.keeps, .cons ?_ run.reads, ?_, ?_, fun q hq => ?_⟩
  · rintro _ ⟨⟩
    exact run.keeps.readText h.reads
  · rintro path' (_ | ⟨_, hm⟩)
    · exact ⟨p, hl, hp⟩
    · obtain ⟨p', hl', hp'⟩ := run.fresh path' hm
      exact ⟨p', hl', h.keeps.vacant hp'⟩
  · refine List.nodup_cons.mpr ⟨fun hm => ?_, run.apart⟩
    obtain ⟨path', hm', same⟩ := List.mem_map.mp hm
    obtain ⟨p', hl', hp'⟩ := run.fresh path' hm'
    rw [hl', hl] at same
    cases same
    rw [he] at hp'
    cases hp'
  · by_cases hqp : q = p
    · exact ⟨path, List.mem_cons_self, hqp ▸ hl⟩
    · obtain ⟨path', hm', hl'⟩ := run.only q (by rwa [others q hqp])
      exact ⟨path', List.mem_cons_of_mem _ hm', hl'⟩

theorem cons {r : Except TemplateError String} (h : Leaves fs fs' d.contents r)
    (run : LeavesAll fs' fs'' drafts results) : LeavesAll fs fs'' (d :: drafts) (r :: results) := by
  cases r with
  | error e => exact cons_error h.2 run e
  | ok path => exact cons_ok h run

end LeavesAll

theorem writeAll_leaves (drafts : List Draft) (w : World σ) :
    LeavesAll w.files (writeAll drafts w).2.files drafts (writeAll drafts w).1 := by
  induction drafts generalizing w with
  | nil => exact .nil w.files
  | cons d drafts ih =>
    unfold writeAll
    rw [List.mapM_cons]
    exact .cons (write_leaves d.root d.stem d.extension d.contents w) (ih (d.write w).2)

/-- A write that succeeds creates one file, at the path it gives, where nothing was before, and one
that fails creates none; either way all that was there stays. After any run of writes the paths they
gave are all different, and each holds the contents of its own write. -/
theorem writeAll_distinct :
    (∀ (d : Draft) (w : World σ),
      match (d.write w).1 with
      | .ok path => (∀ n, w.files.stat path ≠ .ok n) ∧
        w.files.CreatesFile (d.write w).2.files path d.contents
      | .error _ => w.files.AddsDirectories (d.write w).2.files) ∧
    ∀ (drafts : List Draft) (w : World σ),
      (paths (writeAll drafts w).1).Nodup ∧
        LeavesAll w.files (writeAll drafts w).2.files drafts (writeAll drafts w).1 := by
  constructor
  · intro d w
    have left : Leaves w.files (d.write w).2.files d.contents (d.write w).1 :=
      write_leaves d.root d.stem d.extension d.contents w
    cases hr : (d.write w).1 with
    | error e => rw [hr] at left; exact left.2
    | ok path =>
      rw [hr] at left
      exact ⟨left.stat_ne_ok, left⟩
  · intro drafts w
    have left := writeAll_leaves drafts w
    exact ⟨left.apart.of_map, left⟩

/-- Without a suffix two drafts of one name collide: the second write finds no name to take. -/
example :
    let w : World Unit :=
      { now := 0, cancelAt := none, log := [], files := .blank, names := .ofSeed 0 0
        cluster := () }
    let drafts : List Draft := [⟨"/tmp", "a", "yaml", "x"⟩, ⟨"/tmp", "a", "yaml", "y"⟩,
      ⟨"/tmp", "b", "yaml", "z"⟩]
    paths (writeAll drafts w).1 = ["/tmp/a-.yaml", "/tmp/b-.yaml"] := by
  decide +kernel

end Settle.Scratch
