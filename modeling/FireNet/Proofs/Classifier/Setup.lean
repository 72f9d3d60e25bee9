/-
Building a pipeline from settings. A build reads the weights and then sets a
pipeline up for them; what it comes to is told by the world that it meets,
never by a classifier.

It succeeds exactly when three things hold: the settings are valid, the
environment states no preference or a readable one, and the directory has a
file of the right size for each blob. Past these nothing refuses: the
declaration, the buffers of the normalizer, every operator of the network
and every tensor follow from them, as long as no size overflows.
-/
import FireNet.Files.Tree
import FireNet.Proofs.Classifier.Pipeline
import FireNet.Proofs.Model.Layout
import FireNet.Proofs.Weights.Buffers
import FireNet.Proofs.Weights.Directory
import FireNet.Proofs.Weights.Loading
import FireNet.Weights.Store

set_option autoImplicit false

namespace FireNet

-- ============================================================== set-ups

section

variable {m : Type → Type} [Monad m] [Disk m]

/-- The weights that settings lead to. -/
def Settings.readWeights (s : Settings) : Hosted m Parameters := do
  Hosted.ofOutcome s.validate
  let p ← Hosted.ofOutcome (Parameters.declare s.architecture)
  report .info s!"loading classifier weights from {s.weightsDir}"
  Hosted.ofReported (p.loadFrom s.weightsDir)

/-- The weights with a pipeline for them. -/
def Settings.build (s : Settings) : Hosted m (Parameters × Pipeline) := do
  let p ← s.readWeights
  let pipeline ← Pipeline.setup p s
  pure (p, pipeline)

end

section

variable {σ : Type} [Disk (StateM σ)] {s : Settings} {w : World σ}

/-- Weights are read when the settings are valid, their architecture can be
declared and the load succeeds; nothing of the host changes. -/
theorem Settings.readWeights_eq_ok_iff {p : Parameters} {w' : World σ} :
    Hosted.exec s.readWeights w = (.ok p, w')
      ↔ s.validate = .ok () ∧ ∃ declared,
        Parameters.declare s.architecture = .ok declared
        ∧ ∃ j d, (declared.loadFrom s.weightsDir).exec
            (w.journal.push
              ⟨.info, s!"loading classifier weights from {s.weightsDir}"⟩)
            w.disk
              = (.ok p, j, d)
          ∧ w' = ⟨w.host, j, d⟩ := by
  unfold readWeights
  rw [Hosted.exec_bind, Hosted.exec_ofOutcome]
  cases hvalidate : s.validate with
  | error e => simp
  | ok _ =>
      simp only [Hosted.exec_bind, Hosted.exec_ofOutcome]
      cases hdeclare : Parameters.declare s.architecture with
      | error e => simp
      | ok declared =>
          simp only [Hosted.exec_report]
          rcases hload : (declared.loadFrom s.weightsDir).exec
            (w.journal.push
              ⟨.info, s!"loading classifier weights from {s.weightsDir}"⟩)
            w.disk with ⟨outcome, j, d⟩
          rw [Hosted.exec_ofReported hload]
          constructor
          · intro h
            cases h
            exact ⟨trivial, declared, rfl, j, d, hload, rfl⟩
          · intro hall
            obtain ⟨-, _, hsame, j', d', hload', rfl⟩ := hall
            cases hsame
            rw [hload] at hload'
            cases hload'
            rfl

/-- Weights that were read are those of the architecture. -/
theorem Settings.declared_of_readWeights {p : Parameters} {w' : World σ}
    (h : Hosted.exec s.readWeights w = (.ok p, w')) :
    Parameters.declare s.architecture = .ok p.blank := by
  obtain ⟨-, declared, hdeclare, j, d, hload, -⟩ :=
    Settings.readWeights_eq_ok_iff.1 h
  rw [hdeclare, Parameters.blank_of_load hload,
    Parameters.blank_of_declare hdeclare]

/-- Once the weights are read, a build ends as the set-up of the pipeline. -/
theorem Settings.build_of_readWeights {p : Parameters} {w' : World σ}
    (h : Hosted.exec s.readWeights w = (.ok p, w')) :
    (Hosted.exec s.build w).1
      = (Hosted.exec (Pipeline.setup p s) w').1.map fun pl => (p, pl) := by
  unfold build
  rw [Hosted.exec_bind_ok h, Hosted.exec_bind]
  rcases Hosted.exec (Pipeline.setup p s) w' with ⟨outcome, w₁⟩
  cases outcome with
  | error e => rfl
  | ok pl => rfl

/-- A build reads the weights and sets a pipeline up for them. -/
theorem Settings.build_eq_ok_iff {p : Parameters} {pl : Pipeline} :
    (Hosted.exec s.build w).1 = .ok (p, pl)
      ↔ ∃ w', Hosted.exec s.readWeights w = (.ok p, w')
        ∧ (Hosted.exec (Pipeline.setup p s) w').1 = .ok pl := by
  constructor
  · intro h
    rcases hbuild : Hosted.exec s.build w with ⟨outcome, w₂⟩
    rw [hbuild] at h
    cases h
    unfold build at hbuild
    obtain ⟨weights, w', hread, hbuild⟩ := Hosted.exec_bind_eq_ok_iff.1 hbuild
    obtain ⟨pipeline, w₁, hsetup, hpair⟩ := Hosted.exec_bind_eq_ok_iff.1 hbuild
    cases hpair
    exact ⟨w', hread, congrArg Prod.fst hsetup⟩
  · intro hall
    obtain ⟨w', hread, hsetup⟩ := hall
    rw [Settings.build_of_readWeights hread, hsetup]
    rfl

/-- What is built is ready. -/
theorem Settings.ready_of_build {p : Parameters} {pl : Pipeline}
    (h : (Hosted.exec s.build w).1 = .ok (p, pl)) :
    pl.Ready p s pl.backend := by
  obtain ⟨w', hread, hsetup⟩ := Settings.build_eq_ok_iff.1 h
  exact Pipeline.ready_of_setup (Settings.declared_of_readWeights hread) hsetup

/-- A build leaves the engine as it found it until the pipeline is set up, so
the backend is the one that runs in the world of the build, or the one that
the preference leads to on its machine. -/
theorem Settings.backend_of_build {p : Parameters} {pl : Pipeline}
    (h : (Hosted.exec s.build w).1 = .ok (p, pl)) :
    ∃ preference,
      Preference.fromVariable w.host.environment.backend s.backend
        = .ok preference
      ∧ pl.backend = w.host.engine.backend.getD
        (preference.backend w.host.engine.offered) := by
  obtain ⟨w', hread, hsetup⟩ := Settings.build_eq_ok_iff.1 h
  obtain ⟨-, -, -, j, d, -, rfl⟩ := Settings.readWeights_eq_ok_iff.1 hread
  exact Pipeline.backend_of_setup (w := ⟨w.host, j, d⟩) hsetup

end

-- =========================================================== conditions

/-- No size overflows: the weights, the tensors and the tables of the resize
can exist. -/
structure Settings.Fits (s : Settings) : Prop where
  buffers : ∀ n ∈ s.architecture.buffers, n ≤ Size.maxBytes
  tensors : ∀ t ∈ s.architecture.tensorShapes s.inputShape, t.Fits
  rows : s.height * Kernel.Sample.bytes ≤ Size.maxBytes
  columns : s.width * Kernel.Sample.bytes ≤ Size.maxBytes

/-- The variable is unset, or its text asks for a backend. -/
def Preference.Readable (value : Option (List UInt8)) : Prop :=
  ∀ bytes, value = some bytes → ∃ text preference,
    Text.decodeUtf8? bytes = some text
      ∧ parse (String.ofList text) = .ok preference

/-- A preference comes out exactly when the variable is readable. -/
theorem Preference.exists_fromVariable_iff {value : Option (List UInt8)}
    (configured : Preference) :
    (∃ preference, fromVariable value configured = .ok preference)
      ↔ Readable value := by
  unfold fromVariable Readable
  cases value with
  | none => simp
  | some bytes =>
      cases htext : Text.decodeUtf8? bytes with
      | none => simp [htext]
      | some text => simp [htext]

namespace Settings

variable {s : Settings}

/-- Valid settings have a valid architecture and an image with pixels. -/
theorem validate_eq_ok_iff :
    s.validate = .ok ()
      ↔ s.architecture.validate = .ok () ∧ 0 < s.height ∧ 0 < s.width := by
  simp only [validate, Outcome.bind_eq_ok_iff, Outcome.lastGuard_eq_ok_iff]
  constructor
  · intro hall
    obtain ⟨_, harchitecture, hpos⟩ := hall
    exact ⟨harchitecture, by omega, by omega⟩
  · intro hall
    obtain ⟨harchitecture, hheight, hwidth⟩ := hall
    exact ⟨(), harchitecture, by omega⟩

end Settings

variable {σ : Type} {s : Settings}

/-- For declared weights, valid settings and a readable preference, the
pipeline is set up. -/
theorem Pipeline.exists_setup_iff {p : Parameters}
    (hvalid : s.validate = .ok ()) (hfits : s.Fits)
    (hdeclared : Parameters.declare s.architecture = .ok p.blank)
    (w : World σ) :
    (∃ pl, (Hosted.exec (Pipeline.setup p s) w).1 = .ok pl)
      ↔ Preference.Readable w.host.environment.backend := by
  obtain ⟨-, hheight, hwidth⟩ := Settings.validate_eq_ok_iff.1 hvalid
  obtain ⟨first, last, middle, hp⟩ := Parameters.declared_of_declare hdeclared
  have htensors := hfits.tensors
  rw [hp.valid.tensorShapes_eq] at htensors
  have hinput : s.inputShape.Fits := htensors _ List.mem_cons_self
  simp only [setup_eq_ok_iff]
  rw [← Preference.exists_fromVariable_iff s.backend]
  constructor
  · intro hall
    obtain ⟨pl, preference, hpreference, -⟩ := hall
    exact ⟨preference, hpreference⟩
  · intro hall
    obtain ⟨preference, hpreference⟩ := hall
    have hbytes : s.inputShape.volume * Element.bytes UInt8 ≤ Size.maxBytes :=
      Nat.le_trans (Nat.mul_le_mul_left _ (by decide)) hinput.2
    obtain ⟨model, events, hmodel⟩ :=
      hp.exists_setup hheight hwidth rfl htensors
        (w.host.engine.acquire preference).1
    exact ⟨⟨_, model⟩, preference, hpreference, Normalizer.create_eq_ok_iff.2
      ⟨⟨hheight, hwidth⟩, hinput.size?_eq, hbytes, rfl⟩,
      congrArg Prod.fst hmodel⟩

variable [Disk (StateM σ)] {w : World σ}

/-- The weights of valid settings are read exactly when the directory has a
file of the right size for each blob. -/
theorem Settings.exists_readWeights_iff (hvalid : s.validate = .ok ())
    (hreads : Disk.ReadsOnly w.disk) :
    (∃ p w', Hosted.exec s.readWeights w = (.ok p, w'))
      ↔ ∃ declared, Parameters.declare s.architecture = .ok declared
        ∧ ∀ entry ∈ declared.manifest,
          (DirectoryStore.mk s.weightsDir).Offers w.disk entry.1.name
            entry.2 := by
  constructor
  · intro hall
    obtain ⟨p, w', hread⟩ := hall
    obtain ⟨-, declared, hdeclare, j, d, hload, -⟩ :=
      Settings.readWeights_eq_ok_iff.1 hread
    exact ⟨declared, hdeclare,
      (Parameters.exists_loadFrom_iff hreads declared s.weightsDir _).1
        ⟨p, j, d, hload⟩⟩
  · intro hall
    obtain ⟨declared, hdeclare, hoffers⟩ := hall
    obtain ⟨p, j, d, hload⟩ :=
      (Parameters.exists_loadFrom_iff hreads declared s.weightsDir _).2 hoffers
    exact ⟨p, _,
      Settings.readWeights_eq_ok_iff.2
        ⟨hvalid, declared, hdeclare, j, d, hload, rfl⟩⟩

/-- Settings whose sizes fit build a pipeline exactly when the three
conditions hold. -/
theorem Settings.exists_build_iff (hfits : s.validate = .ok () → s.Fits)
    (hreads : Disk.ReadsOnly w.disk) :
    (∃ built, (Hosted.exec s.build w).1 = .ok built)
      ↔ s.validate = .ok () ∧ Preference.Readable w.host.environment.backend
        ∧ ∃ declared, Parameters.declare s.architecture = .ok declared
          ∧ ∀ entry ∈ declared.manifest,
            (DirectoryStore.mk s.weightsDir).Offers w.disk entry.1.name
              entry.2 := by
  constructor
  · intro hall
    obtain ⟨⟨p, pl⟩, hbuilt⟩ := hall
    obtain ⟨w', hread, hsetup⟩ := Settings.build_eq_ok_iff.1 hbuilt
    obtain ⟨hvalid, -, -, j, d, -, rfl⟩ :=
      Settings.readWeights_eq_ok_iff.1 hread
    exact ⟨hvalid,
      (Pipeline.exists_setup_iff hvalid (hfits hvalid)
        (Settings.declared_of_readWeights hread) ⟨w.host, j, d⟩).1 ⟨pl, hsetup⟩,
      (Settings.exists_readWeights_iff hvalid hreads).1 ⟨p, _, hread⟩⟩
  · intro hall
    obtain ⟨hvalid, hreadable, hdeclared⟩ := hall
    obtain ⟨p, w', hread⟩ :=
      (Settings.exists_readWeights_iff hvalid hreads).2 hdeclared
    obtain ⟨-, -, -, j, d, -, rfl⟩ := Settings.readWeights_eq_ok_iff.1 hread
    obtain ⟨pl, hsetup⟩ :=
      (Pipeline.exists_setup_iff hvalid (hfits hvalid)
        (Settings.declared_of_readWeights hread) ⟨w.host, j, d⟩).2 hreadable
    exact ⟨(p, pl), Settings.build_eq_ok_iff.2 ⟨_, hread, hsetup⟩⟩

/-- There are valid settings whose sizes fit, with a disk that has a file of
the right size for each of their blobs. -/
theorem Settings.exists_saved :
    ∃ (s : Settings) (disk : FileTree) (declared : Parameters),
      s.validate = .ok () ∧ s.Fits
      ∧ s.backend = .auto ∧ Parameters.declare s.architecture = .ok declared
      ∧ ∀ entry ∈ declared.manifest,
        (DirectoryStore.mk s.weightsDir).Offers disk entry.1.name entry.2 := by
  let s : Settings := ⟨".", ⟨[2, 1], [1, 2, 4, 1]⟩, 1, 2, .auto⟩
  have hfits : s.Fits := ⟨by decide, by decide, by decide, by decide⟩
  obtain ⟨p, hdeclare⟩ :=
    Parameters.exists_declare (a := s.architecture) rfl hfits.buffers
  have hnames : ∀ blob ∈ p.allBlobs, blob.1.name.utf8ByteSize ≤ 255 := by
    have hall : ((Parameters.declare s.architecture).toOption.map fun p =>
        p.allBlobs.all fun blob => blob.1.name.utf8ByteSize ≤ 255)
          = some true := by
      decide +kernel
    rw [hdeclare] at hall
    simpa [Except.toOption] using hall
  have hfree : ∀ name number,
      FileTree.empty.find? 2 name ≠ some (.directory number) := by
    intro name number hentry
    rw [FileTree.find?_empty] at hentry
    cases hentry
  obtain ⟨t, hsave⟩ := Parameters.exists_saveBlobs_dot (j := #[]) hnames hfree
  obtain ⟨files, hstored⟩ : ∃ files,
      Stored FileTree.fileMap ⟨"."⟩ t p.allBlobs files := by
    obtain ⟨files, hstored, -⟩ := Parameters.saveBlobs_stored p.nodup_keys hsave
    exact ⟨files, hstored⟩
  refine ⟨s, t, p, rfl, hfits, rfl, hdeclare, fun entry hentry => ?_⟩
  obtain ⟨blob, hblob, rfl⟩ := List.mem_map.1 hentry
  exact hstored.offers blob hblob

end FireNet
