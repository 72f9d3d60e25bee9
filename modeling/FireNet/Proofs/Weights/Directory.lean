/-
When a directory holds the blobs of some parameters: each blob has a file
of four bytes for every element, neither more nor less. Exactly then a
load from the directory succeeds, and else it ends with the first blob of
the manifest that has no such file.

Nothing is asked of the disk but that reading leaves it as it is, so that
the file of a name has one content for the whole load.
-/
import FireNet.Proofs.Weights.Answers
import FireNet.Proofs.Weights.Saving

set_option autoImplicit false

namespace FireNet

variable {σ : Type} [Disk (StateM σ)] {s : σ} {j : Journal}

namespace Disk

/-- The content of the file that a path names. -/
def content? (s : σ) (path : String) : Option (Array UInt8) :=
  ((read path : StateM σ _) s).1.toOption

/-- Reading leaves the disk as it is. -/
def ReadsOnly (s : σ) : Prop := ∀ path, ((read path : StateM σ _) s).2 = s

end Disk

namespace DirectoryStore

/-- The file of a blob has as many bytes as its elements take. -/
def Offers (store : DirectoryStore) (s : σ) (name : String) (n : Nat) : Prop :=
  (Disk.content? s (store.path name)).map Array.size = some (4 * n)

/-- What a directory has under a name: the answer to a request for it. -/
def fetch (store : DirectoryStore) (s : σ) : Answers := fun name n =>
  match ((Disk.read (store.path name) : StateM σ _) s).1 with
  | .error e => .error
      (.error (.load name (.unreadable (store.path name) e.message)))
  | .ok bytes => accept name n bytes

/-- Why a directory refuses a blob of `n` elements. -/
inductive Refuses (store : DirectoryStore) (s : σ) (name : String) (n : Nat) :
    Failure → Prop where
  | unread (cause : FileError)
      (hread : ((Disk.read (store.path name) : StateM σ _) s).1
        = .error cause) :
      Refuses store s name n
        (.error (.load name (.unreadable (store.path name) cause.message)))
  | length (bytes : Array UInt8)
      (hcontent : Disk.content? s (store.path name) = some bytes)
      (hsize : bytes.size ≠ 4 * n) :
      Refuses store s name n (.error (.blobSize name (4 * n) bytes.size))

variable {store : DirectoryStore} {name : String} {n : Nat}

/-- Bytes of the right number are a blob. -/
theorem accept_of_size {bytes : Array UInt8} (h : bytes.size = 4 * n) :
    accept name n bytes = .ok (Blob.decode n bytes) :=
  if_pos (h.trans (Nat.mul_comm 4 n))

/-- Any others are refused with both numbers. -/
theorem accept_of_size_ne {bytes : Array UInt8} (h : bytes.size ≠ 4 * n) :
    accept name n bytes
      = .error (.error (.blobSize name (4 * n) bytes.size)) := by
  rw [Nat.mul_comm] at h ⊢
  exact if_neg h

/-- A blob is fetched exactly when the directory offers it. -/
theorem exists_fetch_iff :
    (∃ values, store.fetch s name n = .ok values) ↔ store.Offers s name n := by
  unfold fetch Offers Disk.content?
  cases ((Disk.read (store.path name) : StateM σ _) s).1 with
  | error cause => simp [Except.toOption]
  | ok bytes =>
      by_cases hsize : bytes.size = 4 * n
      · simp [Except.toOption, accept_of_size, hsize]
      · simp [Except.toOption, accept_of_size_ne, hsize]

/-- A fetch that fails is a refusal. -/
theorem refuses_of_fetch {failure : Failure}
    (h : store.fetch s name n = .error failure) :
    store.Refuses s name n failure := by
  unfold fetch at h
  cases hread : ((Disk.read (store.path name) : StateM σ _) s).1 with
  | error cause =>
      rw [hread] at h
      cases h
      exact .unread cause hread
  | ok bytes =>
      rw [hread] at h
      dsimp only at h
      by_cases hsize : bytes.size = 4 * n
      · rw [accept_of_size hsize] at h
        cases h
      · rw [accept_of_size_ne hsize] at h
        cases h
        exact .length bytes (by rw [Disk.content?, hread]; rfl) hsize

/-- A request answers with what the directory has, whatever reading does to
the disk. -/
theorem exists_fill (store : DirectoryStore) (name : String) {n : Nat}
    (buffer : Vector Single n) (s : σ) (j : Journal) :
    ∃ j' s', Reporting.exec (store.source.fill name buffer) j s
        = (fillWith (store.fetch s name n) buffer, j', s')
      ∧ s' = ((Disk.read (store.path name) : StateM σ _) s).2 := by
  rcases hread : (Disk.read (store.path name) : StateM σ _) s with ⟨answer, s'⟩
  unfold fetch
  rw [hread]
  cases answer with
  | error cause =>
      exact ⟨j, s', Reporting.exec_bind (Reporting.exec_lift hread), rfl⟩
  | ok bytes =>
      by_cases hsize : bytes.size = 4 * n
      · refine ⟨j.push
          ⟨.debug, s!"read {store.path name} ({bytes.size} bytes)"⟩, s',
          (Reporting.exec_bind (Reporting.exec_lift hread)).trans ?_, rfl⟩
        simp only [accept_of_size hsize, fillWith]
        rw [Reporting.exec_bind Reporting.exec_report, Reporting.exec_pure]
      · refine ⟨j, s', (Reporting.exec_bind (Reporting.exec_lift hread)).trans
          ?_, rfl⟩
        simp only [accept_of_size_ne hsize, fillWith]
        rw [Reporting.exec_pure]

/-- A disk that reads without a change answers the same each time. -/
theorem answersBy (store : DirectoryStore) (hreads : Disk.ReadsOnly s) :
    store.source.AnswersBy s (store.fetch s) := by
  intro name n buffer j
  obtain ⟨j', s', hfill, hstate⟩ := store.exists_fill name buffer s j
  rw [hstate, hreads] at hfill
  exact ⟨j', hfill⟩

end DirectoryStore

/-- A stored blob is the content of its file. -/
theorem Stored.content {File : Type} {view : FileMap σ File}
    {store : DirectoryStore} {blobs : List (BlobKey × Array Single)}
    {files : List File} (h : Stored view store s blobs files) :
    ∀ blob ∈ blobs,
      Disk.content? s (store.path blob.1.name) = some (Blob.encode blob.2) := by
  induction blobs generalizing files with
  | nil => exact fun _ hblob => by cases hblob
  | cons blob rest ih =>
      obtain ⟨key, values⟩ := blob
      cases files with
      | nil => cases h.paths
      | cons file files =>
          obtain ⟨hfile, hbytes, hrest⟩ := Stored.cons_iff.1 h
          rw [List.forall_mem_cons]
          refine ⟨?_, ih hrest⟩
          rw [Disk.content?, view.read_content hfile hbytes]
          rfl

/-- What is stored is offered. -/
theorem Stored.offers {File : Type} {view : FileMap σ File}
    {store : DirectoryStore} {blobs : List (BlobKey × Array Single)}
    {files : List File} (h : Stored view store s blobs files) :
    ∀ blob ∈ blobs, store.Offers s blob.1.name blob.2.size := by
  intro blob hblob
  rw [DirectoryStore.Offers, h.content blob hblob, Option.map_some,
    Blob.size_encode, Nat.mul_comm]
  rfl

-- ================================================================ loads

/-- A load from a directory succeeds when every blob of the manifest is
offered, and else ends with the refusal of the first that is not. -/
theorem Parameters.exists_loadFrom (hreads : Disk.ReadsOnly s) (p : Parameters)
    (dir : String) (j : Journal) :
    ∃ outcome j', (p.loadFrom dir : Reported (StateM σ) Parameters).exec j s
      = (outcome, j', s)
      ∧ ((∃ loaded, outcome = .ok loaded)
          ↔ ∀ entry ∈ p.manifest,
            (DirectoryStore.mk dir).Offers s entry.1.name entry.2)
      ∧ ∀ failure, outcome = .error failure → ∃ before key n after,
          p.manifest = before ++ (key, n) :: after
            ∧ (∀ entry ∈ before,
              (DirectoryStore.mk dir).Offers s entry.1.name entry.2)
            ∧ (DirectoryStore.mk dir).Refuses s key.name n failure := by
  obtain ⟨outcome, j', hload, hblobs, -⟩ :=
    ((DirectoryStore.mk dir).answersBy hreads).exists_load p j
  have hoffers : ∀ entry : BlobKey × Nat,
      (∃ blob, Answers.blob ((DirectoryStore.mk dir).fetch s) entry = .ok blob)
        ↔ (DirectoryStore.mk dir).Offers s entry.1.name entry.2 :=
    fun entry => Outcome.exists_map_eq_ok_iff.trans
      DirectoryStore.exists_fetch_iff
  simp only [← hoffers]
  refine ⟨outcome, j', hload, ?_, ?_⟩
  · rw [← exists_mapM_eq_ok_iff, ← hblobs, Outcome.exists_map_eq_ok_iff]
  · intro failure hfailed
    rw [hfailed] at hblobs
    obtain ⟨before, ⟨key, n⟩, after, hsplit, hbefore, hlast⟩ :=
      exists_of_mapM_eq_error hblobs.symm
    exact ⟨before, key, n, after, hsplit, hbefore,
      DirectoryStore.refuses_of_fetch (Outcome.map_eq_error_iff.1 hlast)⟩

/-- A set is loaded exactly when the directory offers every blob of its
manifest. -/
theorem Parameters.exists_loadFrom_iff (hreads : Disk.ReadsOnly s)
    (p : Parameters) (dir : String) (j : Journal) :
    (∃ loaded j' s', (p.loadFrom dir : Reported (StateM σ) Parameters).exec j s
        = (.ok loaded, j', s'))
      ↔ ∀ entry ∈ p.manifest,
        (DirectoryStore.mk dir).Offers s entry.1.name entry.2 := by
  obtain ⟨outcome, j', hload, hoffers, -⟩ :=
    Parameters.exists_loadFrom hreads p dir j
  rw [hload, ← hoffers]
  constructor
  · intro hall
    obtain ⟨loaded, _, _, hend⟩ := hall
    cases hend
    exact ⟨loaded, rfl⟩
  · intro hall
    obtain ⟨loaded, hok⟩ := hall
    exact ⟨loaded, j', s, by rw [hok]⟩

end FireNet
