/-
Disks that behave as maps. A path means a file or none; a file has content
or none. Reading gives the content, a write that succeeds changes the
content of one file, and creating directories changes none. Names of
letters and digits below one directory are different files; about other
paths, which may be different ways to one file, nothing is said.

Only calls that succeed are described. When a call succeeds is left to the
disk.
-/
import FireNet.Files.Disk

set_option autoImplicit false

namespace FireNet

/-- Letters and digits, and at least one. -/
def Plain (name : String) : Prop :=
  name.toList ≠ [] ∧ ∀ c ∈ name.toList, c.isAlphanum = true

/-- A disk seen as a map from files to contents. -/
structure FileMap (σ File : Type) [Disk (StateM σ)] where
  /-- The file that a path means. -/
  file? : σ → String → Option File
  content? : σ → File → Option (Array UInt8)
  read_content : ∀ {s : σ} {path : String} {file : File} {bytes : Array UInt8},
    file? s path = some file → content? s file = some bytes →
      (Disk.read path : StateM σ _) s = (.ok bytes, s)
  read_keeps : ∀ (s : σ) (path : String),
    ((Disk.read path : StateM σ _) s).2 = s
  write_content : ∀ {s s' : σ} {path : String} {bytes : Array UInt8},
    (Disk.write path bytes : StateM σ _) s = (.ok (), s') →
      ∃ file, file? s' path = some file ∧ content? s' file = some bytes ∧
        ∀ other, other ≠ file → content? s' other = content? s other
  write_keeps : ∀ {s s' : σ} {path : String} {bytes : Array UInt8},
    (Disk.write path bytes : StateM σ _) s = (.ok (), s') →
      ∀ other file, file? s other = some file → file? s' other = some file
  createDir_content : ∀ (s : σ) (path : String),
    content? ((Disk.createDir path : StateM σ _) s).2 = content? s
  createDir_keeps : ∀ (s : σ) (path other : String) (file : File),
    file? s other = some file →
      file? ((Disk.createDir path : StateM σ _) s).2 other = some file
  file?_joinPath_inj : ∀ {s : σ} {root name other : String} {file : File},
    Plain name → Plain other → file? s (joinPath root name) = some file →
      file? s (joinPath root other) = some file → name = other

namespace FileMap

variable {σ File α β : Type} [Disk (StateM σ)] (view : FileMap σ File)

/-- Every path that means a file goes on to mean it. -/
def KeepsPaths (s s' : σ) : Prop :=
  ∀ path file, view.file? s path = some file → view.file? s' path = some file

/-- A procedure that changes no file, whatever it returns. -/
structure KeepsFiles (x : StateM σ α) : Prop where
  content : ∀ s, view.content? (x s).2 = view.content? s
  paths : ∀ s, view.KeepsPaths s (x s).2

/-- Paths that stay in two steps stay. -/
theorem KeepsPaths.trans {s s' s'' : σ} (h : view.KeepsPaths s s')
    (h' : view.KeepsPaths s' s'') :
    view.KeepsPaths s s'' := by
  intro path file hfile
  exact h' path file (h path file hfile)

theorem KeepsFiles.pure {a : α} : view.KeepsFiles (Pure.pure a : StateM σ α) :=
  ⟨fun _ => rfl, fun _ _ _ hfile => hfile⟩

variable {view}

/-- Files are kept by both parts. -/
theorem KeepsFiles.bind {x : StateM σ α} {f : α → StateM σ β}
    (hx : view.KeepsFiles x) (hf : ∀ a, view.KeepsFiles (f a)) :
    view.KeepsFiles (x >>= f) := by
  constructor
  · intro s
    exact ((hf (x s).1).content (x s).2).trans (hx.content s)
  · intro s
    exact KeepsPaths.trans view (hx.paths s) ((hf (x s).1).paths (x s).2)

variable (view)

/-- A read keeps them. -/
theorem read_keepsFiles (path : String) :
    view.KeepsFiles (Disk.read path : StateM σ _) := by
  constructor
  · intro s
    rw [view.read_keeps]
  · intro s other file hfile
    rw [view.read_keeps]
    exact hfile

theorem createDir_keepsFiles (path : String) :
    view.KeepsFiles (Disk.createDir path : StateM σ _) :=
  ⟨fun s => view.createDir_content s path, fun s => view.createDir_keeps s path⟩

/-- So does the check for a directory, which may make one. -/
theorem ensureDir_keepsFiles (path : String) :
    view.KeepsFiles (Disk.ensureDir path : StateM σ _) := by
  unfold Disk.ensureDir
  apply (view.createDir_keepsFiles path).bind
  intro created
  cases created with
  | ok _ => exact KeepsFiles.pure view
  | error e =>
      apply (view.read_keepsFiles path).bind
      intro content
      split
      · exact KeepsFiles.pure view
      · exact KeepsFiles.pure view

theorem ensureDirs_keepsFiles (paths : List String) :
    view.KeepsFiles (Disk.ensureDirs paths : StateM σ _) := by
  induction paths with
  | nil => exact KeepsFiles.pure view
  | cons path parents ih =>
      unfold Disk.ensureDirs
      apply (view.ensureDir_keepsFiles path).bind
      intro outcome
      split
      · apply ih.bind
        intro above
        cases above with
        | ok _ => exact view.ensureDir_keepsFiles path
        | error e => exact KeepsFiles.pure view
      · exact KeepsFiles.pure view

/-- Creating a directory with its parents changes no file, also where it
fails on the way. -/
theorem createDirAll_keepsFiles (path : String) :
    view.KeepsFiles (Disk.createDirAll path : StateM σ _) := by
  unfold Disk.createDirAll
  split
  · exact KeepsFiles.pure view
  · exact view.ensureDirs_keepsFiles _

end FileMap

end FireNet
