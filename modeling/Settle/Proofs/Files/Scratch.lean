import Settle.Proofs.Files.Creation
import Settle.Scratch

/-!
# What writing a scratch file changes

A write that succeeds has created one file, the one whose path it gives, however many names were
taken. A write that fails has created no file; the directories on the way may be there now.
-/

namespace Settle.Scratch

variable {σ : Type}

/-- What is left by writing a text: its file, or a failure to write and nothing but directories. -/
def Leaves (fs fs' : FileSystem) (text : String) : Except TemplateError String → Prop
  | .ok path => fs.CreatesFile fs' path text
  | .error e => (∃ path cause, e = .write path cause) ∧ fs.AddsDirectories fs'

theorem Leaves.after {fs fs' fs'' : FileSystem} {text : String} (h : fs.AddsDirectories fs') :
    ∀ {r : Except TemplateError String}, Leaves fs' fs'' text r → Leaves fs fs'' text r
  | .ok _, h' => FileSystem.CreatesFile.after h h'
  | .error _, ⟨he, h'⟩ => ⟨he, h.trans h'⟩

theorem createFresh_leaves (root stem extension text : String) (fuel : Nat) (fs : FileSystem)
    (names : Names) :
    Leaves fs (createFresh root stem extension text.toUTF8 fuel fs names).2.1 text
      (createFresh root stem extension text.toUTF8 fuel fs names).1 := by
  induction fuel generalizing names with
  | zero =>
    unfold createFresh
    dsimp only
    split
    · exact FileSystem.CreatesFile.of_createFile ‹_›
    · exact ⟨⟨_, _, rfl⟩, .refl fs⟩
  | succ fuel ih =>
    unfold createFresh
    dsimp only
    split
    · exact FileSystem.CreatesFile.of_createFile ‹_›
    · exact ih _
    · exact ⟨⟨_, _, rfl⟩, .refl fs⟩

theorem write_leaves (root stem extension text : String) (w : World σ) :
    Leaves w.files (write root stem extension text w).2.files text
      (write root stem extension text w).1 := by
  have made := FileSystem.AddsDirectories.createDirectories w.files root
  unfold write
  split
  · rename_i he
    rw [he] at made
    exact ⟨⟨_, _, rfl⟩, made⟩
  · rename_i he
    rw [he] at made
    exact (createFresh_leaves root stem extension text _ _ w.names).after made

theorem write_frame (root stem extension text : String) (w : World σ) :
    ∃ files names, (write root stem extension text w).2 = { w with files, names } := by
  unfold write
  split
  · exact ⟨_, w.names, rfl⟩
  · exact ⟨_, _, rfl⟩

end Settle.Scratch
