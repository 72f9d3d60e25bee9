/-
When a classifier comes up, and what it then takes. A set-up succeeds
exactly when its settings build a pipeline in its world, and what is set up
scores every frame of three channels that has a pixel, whatever it was
given before.
-/
import FireNet.Proofs.Classifier.History

set_option autoImplicit false

namespace FireNet

variable {σ : Type} [Disk (StateM σ)] {s : Settings} {w : World σ}

namespace Classifier

/-- A set-up of settings whose sizes fit succeeds exactly when the settings
are valid, the preference of the environment is readable, and the directory
has for each blob of the architecture a file of four bytes an element. The
classifier then scores a frame exactly when it has three channels and a
pixel, whatever frames and failed set-ups came in between. -/
theorem setup_scores (c : Classifier) (hfits : s.validate = .ok () → s.Fits)
    (hreads : Disk.ReadsOnly w.disk) :
    ((∃ c', (Hosted.exec (c.setup s) w).1 = .ok c')
      ↔ s.validate = .ok () ∧ Preference.Readable w.host.environment.backend
        ∧ ∃ declared, Parameters.declare s.architecture = .ok declared
          ∧ ∀ entry ∈ declared.manifest,
            (Disk.content? w.disk (joinPath s.weightsDir entry.1.name)).map
              Array.size
              = some (4 * entry.2))
      ∧ ∀ c', (Hosted.exec (c.setup s) w).1 = .ok c' →
        ∀ between : List (Visit σ), Visit.lastInstalled between = none →
          ∀ frame : Tensor UInt8, frame.shape.size? = some frame.data.size →
            ((∃ score c'',
              Classifier.process frame (c'.after between) = .ok score c'')
              ↔ frame.shape.channels = 3 ∧ 1 ≤ frame.shape.height
                ∧ 1 ≤ frame.shape.width) := by
  rw [exec_setup]
  constructor
  · refine Iff.trans ?_ (Settings.exists_build_iff hfits hreads)
    cases (Hosted.exec s.build w).1 with
    | error e => simp [Except.map]
    | ok built => simp [Except.map]
  · intro c' hsetup between hbetween frame hframe
    cases hbuild : (Hosted.exec s.build w).1 with
    | error e =>
        rw [hbuild] at hsetup
        cases hsetup
    | ok built =>
        rw [hbuild] at hsetup
        cases hsetup
        obtain ⟨p, pl⟩ := built
        have hready := Settings.ready_of_build hbuild
        obtain ⟨w', hread, -⟩ := Settings.build_eq_ok_iff.1 hbuild
        have hsizes := hfits (Settings.readWeights_eq_ok_iff.1 hread).1
        have hholds : Holds ⟨some pl⟩ (some ⟨p, s, pl.backend⟩) :=
          ⟨pl, rfl, hready⟩
        have hafter := hholds.after between
        rw [hbetween, Option.none_or] at hafter
        obtain ⟨c'', hprocess, -⟩ := hafter.process frame
        rw [Step.exists_eq_ok_iff, hprocess]
        exact hready.exists_classify_iff hsizes.rows hsizes.columns hframe

/-- Settings with their files on the disk come up, and score a frame. -/
theorem setup_scores_saved :
    ∃ (s : Settings) (w : World FileTree) (c' : Classifier),
      s.Fits ∧ Disk.ReadsOnly w.disk
      ∧ (Hosted.exec (empty.setup s) w).1 = .ok c'
      ∧ ∃ score c'',
        Classifier.process ⟨⟨2, 1, 3⟩, #[0, 1, 2, 3, 4, 5]⟩ c'
          = .ok score c'' := by
  obtain ⟨s, disk, declared, hvalid, hfits, -, hdeclare, hfiles⟩ :=
    Settings.exists_saved
  have hunset : Preference.Readable none := fun _ h => by cases h
  let w : World FileTree := ⟨⟨Engine.idle, ⟨none, none⟩⟩, #[], disk⟩
  have hreads : Disk.ReadsOnly w.disk := fun _ => rfl
  obtain ⟨hsetup, hscores⟩ :=
    setup_scores (w := w) empty (fun _ => hfits) hreads
  obtain ⟨c', hc'⟩ := hsetup.2 ⟨hvalid, hunset, declared, hdeclare, hfiles⟩
  exact ⟨s, w, c', hfits, hreads, hc',
    (hscores c' hc' [] rfl _ (by decide)).2 (by decide)⟩

end Classifier

end FireNet
