/-
Parameters written to a directory and read back. Saving writes one file for
each blob; because blob names are different and plain, the files are
different, so each still has its own values at the end. Loading into
parameters with the same manifest asks for the same names and lengths, so
every request is answered with the values that were saved.

The files that are known to hold their values grow with the save, blob by
blob (`Stored`). A later write keeps what an earlier one wrote, since it
goes to another file; this is where the names have to differ. Nothing is
assumed of the directory: what was in it before is replaced or left alone.
-/
import FireNet.Proofs.Files.Tree
import FireNet.Proofs.Weights.Bytes
import FireNet.Proofs.Weights.Loading
import FireNet.Proofs.Weights.Names

set_option autoImplicit false

namespace FireNet

variable {σ File : Type} [Disk (StateM σ)] {view : FileMap σ File}
  {store : DirectoryStore} {s s' : σ} {j j' : Journal}

-- =============================================================== saving

/-- Writing a blob changes one file, that of its name. -/
theorem DirectoryStore.write_content {name : String} {values : Array Single}
    (h : (store.write name values : StateM σ _) s = (.ok (), s')) :
    ∃ file, view.file? s' (store.path name) = some file ∧
      view.content? s' file = some (Blob.encode values) ∧
      (∀ other, other ≠ file → view.content? s' other = view.content? s other) ∧
      view.KeepsPaths s s' := by
  have hdir := view.createDirAll_keepsFiles store.root
  rcases hcreate : (Disk.createDirAll store.root : StateM σ _)
    s with ⟨created, s₁⟩
  have hcontent := hdir.content s
  have hpaths := hdir.paths s
  rw [hcreate] at hcontent hpaths
  unfold DirectoryStore.write at h
  rw [run_bind hcreate] at h
  cases created with
  | error e => cases h
  | ok _ =>
      obtain ⟨file, hfile, hbytes, hothers⟩ := view.write_content h
      refine ⟨file, hfile, hbytes, ?_,
        FileMap.KeepsPaths.trans view hpaths (view.write_keeps h)⟩
      intro other hne
      rw [hothers other hne, hcontent]

/-- The files of some blobs, each with the values of its blob. -/
structure Stored (view : FileMap σ File) (store : DirectoryStore) (s : σ)
    (blobs : List (BlobKey × Array Single)) (files : List File) : Prop where
  paths : (blobs.map fun (key, _) => view.file? s (store.path key.name))
    = files.map some
  contents : files.map (view.content? s) = blobs.map fun (_, values) =>
    some (Blob.encode values)

/-- The first blob is stored in the first file. -/
theorem Stored.cons_iff {key : BlobKey} {values : Array Single}
    {blobs : List (BlobKey × Array Single)} {file : File} {files : List File} :
    Stored view store s ((key, values) :: blobs) (file :: files)
      ↔ view.file? s (store.path key.name) = some file ∧
        view.content? s file = some (Blob.encode values)
          ∧ Stored view store s blobs files := by
  constructor
  · intro hall
    obtain ⟨hpaths, hcontents⟩ := hall
    injection hpaths with hfile hpaths
    injection hcontents with hbytes hcontents
    exact ⟨hfile, hbytes, hpaths, hcontents⟩
  · intro hall
    obtain ⟨hfile, hbytes, hpaths, hcontents⟩ := hall
    constructor
    · simp only [List.map_cons, hfile, hpaths]
    · simp only [List.map_cons, hbytes, hcontents]

/-- A stored file is that of some stored key. -/
theorem Stored.exists_key {blobs : List (BlobKey × Array Single)}
    {files : List File} {file : File} (h : Stored view store s blobs files)
    (hmem : file ∈ files) :
    ∃ key ∈ blobs.map Prod.fst,
      view.file? s (store.path key.name) = some file := by
  have hsome : some file ∈ files.map some := List.mem_map_of_mem hmem
  rw [← h.paths, List.mem_map] at hsome
  obtain ⟨⟨key, values⟩, hblob, hfile⟩ := hsome
  exact ⟨key, List.mem_map_of_mem hblob, hfile⟩

/-- Saving blobs of different keys writes a file for each, all different,
and changes nothing else. -/
theorem Parameters.saveBlobs_stored {blobs : List (BlobKey × Array Single)}
    (hkeys : (blobs.map Prod.fst).Nodup)
    (h : (Parameters.saveBlobs store blobs : Reported (StateM σ) Unit).exec j s
      = (.ok (), j', s')) :
    ∃ files, Stored view store s' blobs files ∧ files.Nodup ∧
      (∀ other, other ∉ files → view.content? s' other = view.content? s other)
        ∧
      view.KeepsPaths s s' := by
  induction blobs generalizing j s with
  | nil =>
      cases h
      exact ⟨[], ⟨rfl, rfl⟩, List.nodup_nil, fun _ _ => rfl,
        fun _ _ hfile => hfile⟩
  | cons blob rest ih =>
      obtain ⟨key, values⟩ := blob
      obtain ⟨hfresh, hrest⟩ := List.nodup_cons.mp hkeys
      rcases hwrite : (store.write key.name values : StateM σ _)
        s with ⟨written, s₁⟩
      unfold Parameters.saveBlobs at h
      rw [Reported.exec_bind_ok (Reported.exec_liftState hwrite)] at h
      cases written with
      | error e => cases h
      | ok _ =>
          obtain ⟨file, hfile, hbytes, hothers, hkeeps⟩ :=
            DirectoryStore.write_content hwrite
          obtain ⟨files, hstored, hnodup, hchanged, hkeeps'⟩ := ih hrest h
          have hfile' := hkeeps' _ file hfile
          -- A later blob in this file would have the name of this one.
          have hnew : file ∉ files := by
            intro hmem
            obtain ⟨other, hother, hsame⟩ := hstored.exists_key hmem
            have hname :=
              view.file?_joinPath_inj BlobKey.plain_name BlobKey.plain_name
                hfile' hsame
            rw [BlobKey.name_injective hname] at hfresh
            exact hfresh hother
          refine ⟨file :: files, Stored.cons_iff.mpr ⟨hfile', ?_, hstored⟩,
            List.nodup_cons.mpr ⟨hnew, hnodup⟩, ?_,
            FileMap.KeepsPaths.trans view hkeeps hkeeps'⟩
          · rw [hchanged file hnew, hbytes]
          · intro other hout
            rw [List.mem_cons, not_or] at hout
            rw [hchanged other hout.2, hothers other hout.1]

-- ============================================================== loading

/-- A stored blob fills a buffer of its length. -/
theorem DirectoryStore.fill_stored {name : String} {n : Nat} {file : File}
    {buffer values : Vector Single n}
    (hfile : view.file? s (store.path name) = some file)
    (hbytes : view.content? s file = some (Blob.encode values.toArray)) :
    Reporting.exec (store.source.fill name buffer) j s = ((.ok (), values),
      j.push ⟨.debug,
        s!"read {store.path name} ({(Blob.encode values.toArray).size} bytes)"⟩,
      s) := by
  have hread := view.read_content hfile hbytes
  have hsize : (Blob.encode values.toArray).size
      = n * Element.bytes Single := by
    rw [Blob.size_encode, Vector.size_toArray]
  have haccept : DirectoryStore.accept name n (Blob.encode values.toArray)
      = .ok values := by
    rw [DirectoryStore.accept, if_pos hsize, Blob.decode_encode]
  refine (Reporting.exec_bind (Reporting.exec_lift hread)).trans ?_
  simp only [haccept]
  rw [Reporting.exec_bind Reporting.exec_report, Reporting.exec_pure]

/-- A stored blob is answered by its own values. -/
theorem BlobSource.ask_stored {key : BlobKey} {old values : Array Single}
    {file : File} (hsize : values.size = old.size)
    (hfile : view.file? s (store.path key.name) = some file)
    (hbytes : view.content? s file = some (Blob.encode values)) :
    ∃ exchange j', store.source.ask key old j s = (exchange, j', s) ∧
      exchange.outcome = .ok () ∧ exchange.left.toArray = values := by
  obtain ⟨j', hfill⟩ : ∃ j',
      Reporting.exec (store.source.fill key.name old.toVector)
          (j.push ⟨.debug, s!"loading {key.name} ({old.size} floats)"⟩) s
        = ((.ok (), ⟨values, hsize⟩), j', s) :=
    ⟨_, DirectoryStore.fill_stored hfile hbytes⟩
  refine ⟨⟨key.name, old.size, old.toVector, .ok (), ⟨values, hsize⟩⟩, j',
    ?_, rfl, rfl⟩
  rw [BlobSource.ask, hfill]

/-- Asked for blobs of the same keys and lengths, a directory answers with
the stored values, and stays as it is. -/
theorem BlobSource.transcript_stored
    {blobs held : List (BlobKey × Array Single)} {files : List File}
    (j : Journal) (hstored : Stored view store s blobs files)
    (hsame : (blobs.map fun (key, values) => (key, values.size))
      = held.map fun (key, values) => (key, values.size)) :
    Exchange.Answered (store.source.transcript held j s).log ∧
      ((store.source.transcript held j s).log.map fun e => e.left.toArray)
        = blobs.map Prod.snd ∧
      (store.source.transcript held j s).state = s := by
  induction blobs generalizing held j files with
  | nil =>
      cases held with
      | nil => exact ⟨fun _ he => absurd he List.not_mem_nil, rfl, rfl⟩
      | cons blob rest => cases hsame
  | cons blob rest ih =>
      obtain ⟨key, values⟩ := blob
      cases held with
      | nil => cases hsame
      | cons other later =>
          obtain ⟨key', old⟩ := other
          cases files with
          | nil => cases hstored.paths
          | cons file files =>
              obtain ⟨hfile, hbytes, hrest⟩ := Stored.cons_iff.mp hstored
              injection hsame with hfirst hlater
              injection hfirst with hkey hsize
              subst hkey
              obtain ⟨exchange, j', hask, hok, hleft⟩ :=
                BlobSource.ask_stored (j := j) hsize hfile hbytes
              obtain ⟨hanswered, hvalues, hstate⟩ := ih j' hrest hlater
              rw [BlobSource.transcript_cons_ok hask hok]
              refine ⟨hanswered.cons hok, ?_, hstate⟩
              simp only [List.map_cons, hleft, hvalues]

-- =============================================== the working directory

/-- Blobs can be saved in the working directory of a file tree, unless some
name is too long, as long as it has no directories. -/
theorem Parameters.exists_saveBlobs_dot {blobs : List (BlobKey × Array Single)}
    {t : FileTree} (hnames : ∀ blob ∈ blobs, blob.1.name.utf8ByteSize ≤ 255)
    (hfree : ∀ name number, t.find? 2 name ≠ some (.directory number)) :
    ∃ t', (Parameters.saveBlobs ⟨"."⟩ blobs : Reported
      (StateM FileTree) Unit).exec j t
      = (.ok (), j, t') := by
  induction blobs generalizing t with
  | nil => exact ⟨t, rfl⟩
  | cons blob rest ih =>
      obtain ⟨key, values⟩ := blob
      have hwritable :=
        FileTree.writable_dot (BlobKey.plain_name : Plain key.name)
          (hnames _ List.mem_cons_self) (hfree _)
      have hwrite : (DirectoryStore.write ⟨"."⟩ key.name values : StateM
        FileTree _) t
          = (.ok (), t.putFile 2 key.name (Blob.encode values)) := by
        unfold DirectoryStore.write
        rw [run_bind FileTree.createDirAll_dot]
        show (Disk.write (joinPath "." key.name) _ : StateM FileTree _) t = _
        rw [FileTree.run_write, hwritable]
      obtain ⟨t', ht'⟩ := ih (t := t.putFile 2 key.name (Blob.encode values))
        (fun blob hblob => hnames blob (List.mem_cons_of_mem _ hblob)) (by
          intro name number
          rw [FileTree.find?_putFile]
          split
          · intro hentry
            cases hentry
          · exact hfree name number)
      refine ⟨t', ?_⟩
      unfold Parameters.saveBlobs
      rw [Reported.exec_bind_ok (Reported.exec_liftState hwrite)]
      exact ht'

-- =========================================================== round trip

/-- Parameters saved to a directory come back from it, bit for bit, into
any parameters of the same manifest. The save writes one file of four bytes
an element for each blob of the manifest, and changes no other file. -/
theorem Parameters.loadFrom_saveTo (view : FileMap σ File) {p q : Parameters}
    (hmanifest : p.manifest = q.manifest) {dir : String}
    (hsave : (p.saveTo dir : Reported (StateM σ) Unit).exec j s
      = (.ok (), j', s')) :
    (∀ k, ∃ loaded k',
      (q.loadFrom dir : Reported (StateM σ) Parameters).exec k s'
        = (.ok loaded, k', s') ∧
      loaded.allBlobs = p.allBlobs ∧ loaded.blank = q.blank) ∧
    ∃ files : List File,
      (p.manifest.map fun (key, _) => view.file? s' (joinPath dir key.name))
        = files.map some ∧
      files.Nodup ∧
      (files.map fun file => (view.content? s' file).map Array.size)
        = (p.manifest.map fun (_, n) => some (4 * n)) ∧
      ∀ other, other ∉ files →
        view.content? s' other = view.content? s other := by
  unfold Parameters.saveTo at hsave
  rcases hblobs :
    (Parameters.saveBlobs ⟨dir⟩ p.allBlobs : Reported (StateM σ) Unit).exec j s
    with ⟨saved, j₁, s₁⟩
  cases saved with
  | error e =>
      rw [Reported.exec_bind_error hblobs] at hsave
      cases hsave
  | ok _ =>
      rw [Reported.exec_bind_ok hblobs] at hsave
      cases hsave
      obtain ⟨files, hstored, hnodup, hchanged, -⟩ :=
        Parameters.saveBlobs_stored p.nodup_keys hblobs
      constructor
      · intro k
        -- each request of the load is answered by the file of its name
        obtain ⟨hanswered, hvalues, hstate⟩ :=
          BlobSource.transcript_stored k hstored hmanifest
        obtain ⟨loaded, hload, hblobs, hblank⟩ :=
          Parameters.exec_load_answered rfl hanswered
        rw [hstate] at hload
        refine ⟨loaded, _, hload, ?_, hblank⟩
        have hkeys : q.allBlobs.map Prod.fst = p.allBlobs.map Prod.fst := by
          rw [← Parameters.keys_manifest, ← Parameters.keys_manifest, hmanifest]
        rw [hblobs, hvalues, hkeys]
        exact (List.zip_of_prod rfl rfl).symm
      · refine ⟨files, ?_, hnodup, ?_, hchanged⟩
        · rw [← hstored.paths, Parameters.manifest, List.map_map]
          rfl
        · have hsizes :=
            congrArg (List.map (Option.map Array.size)) hstored.contents
          rw [List.map_map, List.map_map] at hsizes
          rw [Parameters.manifest, List.map_map]
          refine hsizes.trans (List.map_congr_left ?_)
          intro entry _
          obtain ⟨key, values⟩ := entry
          show some (Blob.encode values).size = some (4 * values.size)
          rw [Blob.size_encode, Nat.mul_comm]
          rfl

/-- A network of one layer each and one block, with a not-a-number that
carries a payload and a negative zero. -/
def samples : Parameters :=
  let layer (bits : UInt32) (bias : Option (Array Single)) : Layer :=
    ⟨1, 1, Window.square 1 1 0, .identity, #[⟨bits⟩, Single.one], bias⟩
  ⟨⟨[1], [1, 2, 1]⟩, layer 0x7fc12345 (some #[Single.negZero]),
    layer 0x80000000 none,
    layer 1 none,
    [⟨[⟨2, 1, 1, none, layer 2 none, layer 3 (some #[]), layer 4 none⟩]⟩]⟩

/-- Samples of every kind of bit pattern survive the disk. -/
theorem Parameters.loadFrom_saveTo_samples :
    ∃ j' t', (samples.saveTo "." : Reported (StateM FileTree) Unit).exec #[]
      FileTree.empty
        = (.ok (), j', t') ∧
      ∃ loaded k, (samples.blank.loadFrom "." : Reported
        (StateM FileTree) Parameters).exec j' t'
        = (.ok loaded, k, t') ∧ loaded.allBlobs = samples.allBlobs := by
  have hnames : ∀ blob ∈ samples.allBlobs, blob.1.name.utf8ByteSize ≤ 255 := by
    decide +kernel
  have hfree : ∀ name number,
      FileTree.empty.find? 2 name ≠ some (.directory number) := by
    intro name number hentry
    rw [FileTree.find?_empty] at hentry
    cases hentry
  obtain ⟨t', hblobs⟩ := Parameters.exists_saveBlobs_dot (j := #[]) hnames hfree
  have hsave : (samples.saveTo "." : Reported
    (StateM FileTree) Unit).exec #[] FileTree.empty
      = (.ok (), _, t') := Reported.exec_bind_ok hblobs
  have hmanifest : samples.manifest = samples.blank.manifest := rfl
  obtain ⟨hload, -⟩ :=
    Parameters.loadFrom_saveTo FileTree.fileMap hmanifest hsave
  obtain ⟨loaded, k, hloaded, hvalues, -⟩ := hload _
  exact ⟨_, t', hsave, loaded, k, hloaded, hvalues⟩

end FireNet
