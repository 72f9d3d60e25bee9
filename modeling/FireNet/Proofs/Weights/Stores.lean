/-
The two stores as one contract. Memory compares numbers of elements and a
directory numbers of bytes. A file that holds the bytes of some values has
four for each, so where the two hold the same they answer alike, and loads
from them end alike; neither touches a buffer that it does not fill.
-/
import FireNet.Proofs.Weights.Directory

set_option autoImplicit false

namespace FireNet

variable {σ : Type} {s s' : σ} {j j' : Journal}

-- =============================================================== memory

namespace MemoryStore

/-- A store in memory answers by what it holds, and does nothing else. -/
theorem exec_fill (store : MemoryStore) (name : String) {n : Nat}
    (buffer : Vector Single n) :
    Reporting.exec (store.source.fill name buffer) j s
      = (fillWith (store.fetch name n) buffer, j, s) := by
  unfold MemoryStore.source
  dsimp only
  cases store.fetch name n with
  | ok values => rfl
  | error failure => rfl

theorem answersBy (store : MemoryStore) (s : σ) :
    store.source.AnswersBy s store.fetch :=
  fun name _ buffer j => ⟨j, store.exec_fill name buffer⟩

/-- The memory of some parameters has each of their blobs under its name. -/
theorem get?_ofParameters {p : Parameters} {blob : BlobKey × Array Single}
    (h : blob ∈ p.allBlobs) :
    (ofParameters p).get? blob.1.name = some blob.2 := by
  have hmem : (blob.1.name, blob.2) ∈ p.allBlobs.map fun entry =>
      (entry.1.name, entry.2) :=
    List.mem_map_of_mem h
  refine Std.HashMap.getElem?_ofList_of_mem BEq.rfl ?_ hmem
  have hkeys := p.nodup_keys
  rw [List.Nodup, List.pairwise_map] at hkeys
  rw [List.pairwise_map]
  refine hkeys.imp ?_
  intro first second hne
  rw [beq_eq_false_iff_ne]
  exact fun hname => hne (BlobKey.name_injective hname)

end MemoryStore

-- ================================================================ alike

variable [Disk (StateM σ)]

namespace DirectoryStore

variable {store : DirectoryStore} {name : String} {n : Nat}

/-- Values in memory and their bytes in a file are answered alike. -/
theorem alike_fetch {memory : MemoryStore}
    (h : Disk.content? s (store.path name)
      = (memory.get? name).map Blob.encode) :
    Outcome.Alike (memory.fetch name n) (store.fetch s name n) := by
  unfold MemoryStore.fetch fetch
  unfold Disk.content? at h
  cases hread : ((Disk.read (store.path name) : StateM σ _) s).1 with
  | error cause =>
      rw [hread] at h
      rw [Option.map_eq_none_iff.1 h.symm]
      exact .error (.load name _ _)
  | ok bytes =>
      rw [hread] at h
      obtain ⟨values, hvalues, hbytes⟩ := Option.map_eq_some_iff.1 h.symm
      have hcount : (Blob.encode values).size = 4 * values.size := by
        rw [Blob.size_encode, Nat.mul_comm]
        rfl
      rw [hvalues, ← hbytes]
      by_cases hsize : values.size = n
      · subst hsize
        have hdecoded :
            Blob.decode values.size (Blob.encode values) = ⟨values, rfl⟩ :=
          Blob.decode_encode ⟨values, rfl⟩
        simp only [dif_pos, accept_of_size hcount, hdecoded]
        exact .ok _
      · have hne : (Blob.encode values).size ≠ 4 * n := by omega
        simp only [dif_neg hsize, accept_of_size_ne hne]
        rw [hcount, Nat.mul_comm 4, Nat.mul_comm 4]
        exact .error (.blobSize name _ _)

end DirectoryStore

/-- Loading from a directory succeeds when each blob of the manifest has a
file of four bytes for every element, and else ends with the first blob,
in order, that is missing or has another length. Loading from memory ends
alike wherever the directory holds the bytes of the values: with the same
parameters bit for bit, or at the same blob for the same kind of defect. A
fill that fails leaves the buffer as it was, in either store. -/
theorem Parameters.loads_alike (hreads : Disk.ReadsOnly s) (p : Parameters)
    (dir : String) :
    (∀ j, ∃ outcome j',
      (p.loadFrom dir : Reported (StateM σ) Parameters).exec j s
        = (outcome, j', s)
        ∧ ((∃ loaded, outcome = .ok loaded)
            ↔ ∀ entry ∈ p.manifest,
              (DirectoryStore.mk dir).Offers s entry.1.name entry.2)
        ∧ ∀ failure, outcome = .error failure → ∃ before key n after,
            p.manifest = before ++ (key, n) :: after
              ∧ (∀ entry ∈ before,
                (DirectoryStore.mk dir).Offers s entry.1.name entry.2)
              ∧ (DirectoryStore.mk dir).Refuses s key.name n failure)
      ∧ (∀ store : MemoryStore,
          (∀ entry ∈ p.manifest, Disk.content? s (joinPath dir entry.1.name)
            = (store.get? entry.1.name).map Blob.encode) →
          ∀ (τ : Type) (t : τ) (j k : Journal),
            Outcome.Alike
              ((p.load store.source : Reported (StateM τ) Parameters).exec
                j t).1
              ((p.loadFrom dir : Reported (StateM σ) Parameters).exec k s).1)
      ∧ (∀ (store : MemoryStore) (τ : Type),
        (store.source : BlobSource (StateM τ)).KeepsRefused)
      ∧ ((DirectoryStore.mk dir).source : BlobSource
        (StateM σ)).KeepsRefused := by
  refine ⟨Parameters.exists_loadFrom hreads p dir, ?_, ?_, ?_⟩
  · intro store hsame τ t j k
    refine (store.answersBy t).alike_load
      ((DirectoryStore.mk dir).answersBy hreads) ?_ j k
    intro entry hentry
    exact (DirectoryStore.alike_fetch (hsame entry hentry)).map _
  · intro store τ
    exact .of_fillWith fun name n buffer j t =>
      ⟨_, _, store.exec_fill name buffer⟩
  · refine .of_fillWith fun name n buffer j s => ?_
    obtain ⟨j', s', hfill, -⟩ :=
      (DirectoryStore.mk dir).exists_fill name buffer s j
    exact ⟨_, (j', s'), hfill⟩

/-- Parameters with a not-a-number and a negative zero, saved to the working
directory and kept in memory. -/
theorem Parameters.loads_alike_samples :
    ∃ t : FileTree, Disk.ReadsOnly t
      ∧ (∀ entry ∈ samples.manifest, Disk.content? t (joinPath "." entry.1.name)
          = ((MemoryStore.ofParameters samples).get? entry.1.name).map
            Blob.encode)
      ∧ ∃ loaded,
        ((samples.blank.loadFrom "." : Reported
          (StateM FileTree) Parameters).exec #[] t).1
            = .ok loaded
          ∧ ((samples.blank.load (MemoryStore.ofParameters samples).source
              : Reported (StateM Unit) Parameters).exec #[] ()).1
                = .ok loaded := by
  have hnames : ∀ blob ∈ samples.allBlobs, blob.1.name.utf8ByteSize ≤ 255 := by
    decide +kernel
  have hfree : ∀ name number,
      FileTree.empty.find? 2 name ≠ some (.directory number) := by
    intro name number hentry
    rw [FileTree.find?_empty] at hentry
    cases hentry
  obtain ⟨t, hsave⟩ := Parameters.exists_saveBlobs_dot (j := #[]) hnames hfree
  obtain ⟨files, hstored⟩ : ∃ files,
      Stored FileTree.fileMap ⟨"."⟩ t samples.allBlobs files := by
    obtain ⟨files, hstored, -⟩ :=
      Parameters.saveBlobs_stored samples.nodup_keys hsave
    exact ⟨files, hstored⟩
  have hreads : Disk.ReadsOnly t := fun _ => rfl
  have hsame : ∀ entry ∈ samples.manifest,
    Disk.content? t (joinPath "." entry.1.name)
      = ((MemoryStore.ofParameters samples).get? entry.1.name).map
        Blob.encode := by
    intro entry hentry
    obtain ⟨blob, hblob, rfl⟩ := List.mem_map.1 hentry
    rw [MemoryStore.get?_ofParameters hblob]
    exact hstored.content blob hblob
  obtain ⟨hloads, halike, -, -⟩ :=
    Parameters.loads_alike hreads samples.blank "."
  obtain ⟨outcome, j', hload, hoffers, -⟩ := hloads #[]
  obtain ⟨loaded, hok⟩ : ∃ loaded, outcome = .ok loaded := by
    refine hoffers.2 fun entry hentry => ?_
    obtain ⟨blob, hblob, rfl⟩ :=
      List.mem_map.1 (show entry ∈ samples.manifest from hentry)
    exact hstored.offers blob hblob
  have hends := halike (MemoryStore.ofParameters samples) hsame Unit () #[] #[]
  rw [hload, hok] at hends
  exact ⟨t, hreads, hsame, loaded, by rw [hload, hok], hends.eq_ok⟩

end FireNet
