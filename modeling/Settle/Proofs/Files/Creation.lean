import Settle.Files.System

/-!
# What creating files and directories changes

Files and directories come about only where there was nothing, so everything that was there stays
as it was (`Keeps`), and places that could be reached stay so (`Keeps.walk`). `AddsDirectories` is
all that making directories does; `CreatesFile` is what making one file does besides, and with it
the file can be read back by its path (`CreatesFile.reads`).
-/

namespace Settle.FileSystem

theorem bind_ok {α β : Type} {x : Except FileError α} {f : α → Except FileError β} {b : β}
    (h : x >>= f = .ok b) : ∃ a, x = .ok a ∧ f a = .ok b := by
  cases x with
  | error e => cases h
  | ok a => exact ⟨a, rfl, h⟩

theorem entry_put (fs : FileSystem) (p q : Place) (n : Entry) (hp : p ≠ []) :
    entry? (fs.put p n) q = if q = p then some n else fs.entry? q := by
  unfold put entry?
  by_cases h : q = p
  · subst h; simp [hp]
  · cases q with
    | nil => simp [h]
    | cons s q => simp [h, List.lookup_cons, beq_eq_false_iff_ne.mpr h]

theorem ne_nil_of_vacant {fs : FileSystem} {p : Place} (h : fs.entry? p = none) : p ≠ [] := by
  rintro rfl
  cases h

/-- What was there is there as it was. -/
structure Keeps (fs fs' : FileSystem) : Prop where
  working : fs'.working = fs.working
  entry : ∀ {q : Place} {n : Entry}, fs.entry? q = some n → fs'.entry? q = some n

namespace Keeps

variable {fs fs' fs'' : FileSystem}

theorem refl (fs : FileSystem) : fs.Keeps fs := ⟨rfl, fun h => h⟩

theorem trans (h : fs.Keeps fs') (h' : fs'.Keeps fs'') : fs.Keeps fs'' :=
  ⟨h'.working.trans h.working, fun hq => h'.entry (h.entry hq)⟩

theorem vacant (h : fs.Keeps fs') {p : Place} (hp : fs'.entry? p = none) : fs.entry? p = none := by
  cases he : fs.entry? p with
  | none => rfl
  | some n =>
    rw [h.entry he] at hp
    cases hp

theorem put {p : Place} (h : fs.entry? p = none) (n : Entry) : fs.Keeps (fs.put p n) := by
  refine ⟨rfl, fun {q m} hq => ?_⟩
  rw [entry_put _ _ _ _ (ne_nil_of_vacant h), if_neg, hq]
  rintro rfl
  rw [h] at hq
  cases hq

theorem walk (h : fs.Keeps fs') {segments : List String} :
    ∀ {p q : Place}, fs.walk p segments = .ok q → fs'.walk p segments = .ok q := by
  induction segments with
  | nil => intro p q hw; exact hw
  | cons s rest ih =>
    intro p q hw
    unfold FileSystem.walk at hw ⊢
    cases he : fs.entry? p with
    | none => rw [he] at hw; cases hw
    | some n =>
      rw [he] at hw
      rw [h.entry he]
      cases n with
      | file contents => cases hw
      | directory =>
        dsimp only at hw ⊢
        split
        · rw [if_pos ‹_›] at hw; exact ih hw
        · rw [if_neg ‹_›] at hw
          split
          · rw [if_pos ‹_›] at hw; exact ih hw
          · rw [if_neg ‹_›] at hw
            split
            · rw [if_pos ‹_›] at hw; cases hw
            · rw [if_neg ‹_›] at hw; exact ih hw

theorem locate (h : fs.Keeps fs') {path : String} {p : Place} (hl : fs.locate path = .ok p) :
    fs'.locate path = .ok p := by
  obtain ⟨_, hc, hw⟩ := bind_ok hl
  have hs : fs'.start path = fs.start path := by unfold start; rw [h.working]
  unfold FileSystem.locate
  rw [hc, hs]
  exact h.walk hw

end Keeps

/-! ## Looking at a path -/

theorem stat_ok {fs : FileSystem} {path : String} {n : Entry} (h : fs.stat path = .ok n) :
    ∃ p, fs.locate path = .ok p ∧ fs.entry? p = some n := by
  obtain ⟨p, hl, h⟩ := bind_ok h
  refine ⟨p, hl, ?_⟩
  cases he : fs.entry? p with
  | none => rw [he] at h; cases h
  | some m =>
    rw [he] at h
    cases m with
    | directory => cases h; rfl
    | file contents =>
      dsimp only at h
      split at h
      · cases h
      · cases h; rfl

section Kept

variable {fs fs' : FileSystem} {path text : String}

theorem Keeps.stat (h : fs.Keeps fs') {n : Entry} (hs : fs.stat path = .ok n) :
    fs'.stat path = .ok n := by
  obtain ⟨p, hl, he⟩ := stat_ok hs
  unfold FileSystem.stat at hs ⊢
  rw [hl] at hs
  rw [h.locate hl]
  dsimp only [bind, Except.bind] at hs ⊢
  rw [he] at hs
  rw [h.entry he]
  exact hs

theorem Keeps.readText (h : fs.Keeps fs') (hr : fs.readText path = .ok text) :
    fs'.readText path = .ok text := by
  obtain ⟨n, hs, hr⟩ := bind_ok hr
  unfold FileSystem.readText
  rw [h.stat hs]
  exact hr

end Kept

theorem walk_append (fs : FileSystem) (xs ys : List String) :
    ∀ p, fs.walk p (xs ++ ys) = (fs.walk p xs).bind fun q => fs.walk q ys := by
  induction xs with
  | nil => intro p; rfl
  | cons s rest ih =>
    intro p
    rw [List.cons_append, walk, walk]
    cases fs.entry? p with
    | none => rfl
    | some n =>
      cases n with
      | file contents => rfl
      | directory =>
        dsimp only
        split
        · exact ih p
        · split
          · exact ih _
          · split
            · rfl
            · exact ih _

/-- A way that ends with `.` leads to a directory, and so does the way without it. -/
theorem walk_dot {fs : FileSystem} {p dir : Place} {xs : List String}
    (h : fs.walk p (xs ++ ["."]) = .ok dir) : fs.walk p xs = .ok dir := by
  rw [walk_append] at h
  obtain ⟨q, hx, hd⟩ := bind_ok h
  unfold walk at hd
  split at hd
  · cases hd
  · cases hd
  · cases hd
    exact hx

theorem newPlace_ok {fs : FileSystem} {path name : String} {dir : Place}
    (h : fs.newPlace path = .ok (dir, name)) :
    checkPath path = .ok () ∧
      ∃ init, Path.segments path = init ++ [name] ∧ fs.walk (fs.start path) init = .ok dir := by
  obtain ⟨_, hc, h⟩ := bind_ok h
  refine ⟨hc, (Path.segments path).dropLast, ?_⟩
  dsimp only at h
  cases hl : (Path.segments path).getLast? with
  | none => rw [hl] at h; cases h
  | some last =>
    rw [hl] at h
    obtain ⟨q, hw, h⟩ := bind_ok h
    split at h
    · cases h
    · cases h
      obtain ⟨ys, hy⟩ := List.getLast?_eq_some_iff.mp hl
      exact ⟨by rw [hy, List.dropLast_concat], walk_dot hw⟩

theorem vacancy_ok {fs : FileSystem} {dir p : Place} {name : String}
    (h : fs.vacancy dir name = .ok p) : fs.walk dir [name] = .ok p ∧ fs.entry? p = none := by
  obtain ⟨q, hw, h⟩ := bind_ok h
  split at h
  · cases h
  · rename_i hn
    cases h
    exact ⟨hw, Option.not_isSome_iff_eq_none.mp hn⟩

theorem locate_of_vacancy {fs : FileSystem} {path name : String} {dir p : Place}
    (hn : fs.newPlace path = .ok (dir, name)) (hv : fs.vacancy dir name = .ok p) :
    fs.locate path = .ok p ∧ fs.entry? p = none := by
  obtain ⟨hc, init, hs, hw⟩ := newPlace_ok hn
  obtain ⟨hp, he⟩ := vacancy_ok hv
  refine ⟨?_, he⟩
  unfold locate
  rw [hc, hs]
  show fs.walk (fs.start path) (init ++ [name]) = .ok p
  rw [walk_append, hw]
  exact hp

theorem createDirectory_ok {fs fs' : FileSystem} {path : String}
    (h : fs.createDirectory path = .ok fs') :
    ∃ p, fs.locate path = .ok p ∧ fs.entry? p = none ∧ fs' = fs.put p .directory := by
  obtain ⟨⟨dir, name⟩, hn, h⟩ := bind_ok h
  obtain ⟨p, hv, h⟩ := bind_ok h
  cases h
  obtain ⟨hl, he⟩ := locate_of_vacancy hn hv
  exact ⟨p, hl, he, rfl⟩

theorem createFile_ok {fs fs' : FileSystem} {path : String} {contents : ByteArray}
    (h : fs.createFile path contents = .ok fs') :
    Path.endsWithSlash path = false ∧
      ∃ p, fs.locate path = .ok p ∧ fs.entry? p = none ∧ fs' = fs.put p (.file contents) := by
  obtain ⟨⟨dir, name⟩, hn, h⟩ := bind_ok h
  dsimp only at h
  split at h
  · cases h
  · rename_i hs
    obtain ⟨p, hv, h⟩ := bind_ok h
    cases h
    obtain ⟨hl, he⟩ := locate_of_vacancy hn hv
    exact ⟨Bool.eq_false_iff.mpr hs, p, hl, he, rfl⟩

/-! ## Making directories -/

/-- New directories at most; all files are as they were. -/
structure AddsDirectories (fs fs' : FileSystem) : Prop where
  keeps : fs.Keeps fs'
  files : ∀ q, fs'.file? q = fs.file? q

namespace AddsDirectories

variable {fs fs' fs'' : FileSystem}

theorem refl (fs : FileSystem) : fs.AddsDirectories fs := ⟨.refl fs, fun _ => rfl⟩

theorem trans (h : fs.AddsDirectories fs') (h' : fs'.AddsDirectories fs'') :
    fs.AddsDirectories fs'' :=
  ⟨h.keeps.trans h'.keeps, fun q => (h'.files q).trans (h.files q)⟩

theorem createDirectory {path : String} (h : fs.createDirectory path = .ok fs') :
    fs.AddsDirectories fs' := by
  obtain ⟨p, _, hp, rfl⟩ := createDirectory_ok h
  refine ⟨.put hp _, fun q => ?_⟩
  unfold file?
  rw [entry_put _ _ _ _ (ne_nil_of_vacant hp)]
  by_cases hq : q = p
  · rw [if_pos hq, hq, hp]
  · rw [if_neg hq]

theorem createAll (fs : FileSystem) (paths : List String) :
    fs.AddsDirectories (fs.createAll paths).2 := by
  induction paths generalizing fs with
  | nil => exact refl fs
  | cons path rest ih =>
    unfold FileSystem.createAll
    split
    · exact (createDirectory ‹_›).trans (ih _)
    · split
      · exact ih fs
      · exact refl fs
    · exact refl fs

theorem createMissing (fs : FileSystem) (missing paths : List String) :
    fs.AddsDirectories (fs.createMissing missing paths).2 := by
  induction paths generalizing missing with
  | nil => exact createAll fs missing
  | cons path parents ih =>
    unfold FileSystem.createMissing
    split
    · exact (createDirectory ‹_›).trans (createAll _ missing)
    · exact ih (path :: missing)
    · split
      · exact createAll fs missing
      · exact refl fs
    · exact refl fs

theorem createDirectories (fs : FileSystem) (path : String) :
    fs.AddsDirectories (fs.createDirectories path).2 :=
  createMissing fs [] (ancestors path)

end AddsDirectories

/-! ## Making a file -/

/-- One new file, where its path leads to and nothing was; it holds a text. All other files are as
they were. -/
structure CreatesFile (fs fs' : FileSystem) (path text : String) : Prop where
  keeps : fs.Keeps fs'
  reads : fs'.readText path = .ok text
  only : ∃ p, fs'.locate path = .ok p ∧ fs.entry? p = none ∧ ∀ q ≠ p, fs'.file? q = fs.file? q

theorem fromUTF8?_toUTF8 (text : String) : String.fromUTF8? text.toUTF8 = some text := by
  unfold String.fromUTF8?
  rw [String.toUTF8_eq_toByteArray, dif_pos text.isValidUTF8]
  rfl

theorem readText_of_entry {fs : FileSystem} {path text : String} {p : Place}
    (hl : fs.locate path = .ok p) (he : fs.entry? p = some (.file text.toUTF8))
    (hs : Path.endsWithSlash path = false) : fs.readText path = .ok text := by
  have hstat : fs.stat path = .ok (.file text.toUTF8) := by
    unfold stat
    simp only [hl, he, hs, bind, Except.bind]
    rfl
  unfold readText
  rw [hstat]
  simp only [bind, Except.bind, fromUTF8?_toUTF8]
  rfl

/-- A file can be read back by the path under which it was created. -/
theorem CreatesFile.of_createFile {fs fs' : FileSystem} {path text : String}
    (h : fs.createFile path text.toUTF8 = .ok fs') : fs.CreatesFile fs' path text := by
  obtain ⟨hs, p, hl, hp, rfl⟩ := createFile_ok h
  have entry (q : Place) := entry_put fs p q (.file text.toUTF8) (ne_nil_of_vacant hp)
  have hl' := (Keeps.put hp (.file text.toUTF8)).locate hl
  refine ⟨.put hp _, readText_of_entry hl' ?_ hs, p, hl', hp, fun q hq => ?_⟩
  · rw [entry, if_pos rfl]
  · unfold file?
    rw [entry, if_neg hq]

/-- Directories made before a file was created do not count. -/
theorem CreatesFile.after {fs fs' fs'' : FileSystem} {path text : String}
    (h : fs.AddsDirectories fs') (h' : fs'.CreatesFile fs'' path text) :
    fs.CreatesFile fs'' path text := by
  obtain ⟨p, hl, hp, only⟩ := h'.only
  exact ⟨h.keeps.trans h'.keeps, h'.reads, p, hl, h.keeps.vacant hp, fun q hq =>
    (only q hq).trans (h.files q)⟩

theorem CreatesFile.stat_ne_ok {fs fs' : FileSystem} {path text : String}
    (h : fs.CreatesFile fs' path text) (n : Entry) : fs.stat path ≠ .ok n := by
  intro hs
  obtain ⟨q, hq, he⟩ := stat_ok hs
  obtain ⟨p, hl, hp, _⟩ := h.only
  rw [h.keeps.locate hq] at hl
  cases hl
  rw [he] at hp
  cases hp

theorem CreatesFile.place {fs fs' : FileSystem} {path text : String}
    (h : fs.CreatesFile fs' path text) :
    ∃ p, fs'.locate path = .ok p ∧ fs.entry? p = none ∧ (∃ n, fs'.entry? p = some n) ∧
      ∀ q ≠ p, fs'.file? q = fs.file? q := by
  obtain ⟨p, hl, hp, others⟩ := h.only
  obtain ⟨n, hs, _⟩ := bind_ok h.reads
  obtain ⟨q, hq, he⟩ := stat_ok hs
  rw [hl] at hq
  cases hq
  exact ⟨p, hl, hp, ⟨n, he⟩, others⟩

end Settle.FileSystem
