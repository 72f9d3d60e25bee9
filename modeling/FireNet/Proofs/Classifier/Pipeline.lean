/-
Pipelines. One that is set up for parameters and settings on a backend is
ready for them, and stays so: whatever frame it is given, it answers as a
normalizer and a network that never saw a frame (`Parameters.classify`),
and is ready again, also after a refusal or a fault. So no buffer of a
pipeline shows in an answer: neither the resized bytes, nor the input of
the model, nor the tensors between.

The backend does show. A set-up takes it from the engine, which runs on one
already or starts on the one that the preference leads to
(`Pipeline.backend_of_setup`).
-/
import FireNet.Classifier.Basic
import FireNet.Proofs.Frame.Normalizer
import FireNet.Proofs.Host
import FireNet.Proofs.Model.Session
import FireNet.Proofs.Operator.Claims

set_option autoImplicit false

namespace FireNet

/-- The score of a frame by a fresh normalizer and the pure network on a
backend. -/
def Parameters.classify (p : Parameters) (s : Settings) (backend : Backend)
    (frame : Tensor UInt8) : Outcome Single := do
  let fresh ← Normalizer.create s.height s.width
  let x ← ((Normalizer.process frame).runFrom fresh).1
  Outcome.ofOption (p.score? backend x)

namespace Pipeline

/-- The backend that a pipeline computes on. -/
def backend (pl : Pipeline) : Backend := pl.model.network.handle.backend

/-- A pipeline as its set-up leaves it, whatever its buffers hold. -/
structure Ready (pl : Pipeline) (p : Parameters) (s : Settings)
    (backend : Backend) : Prop where
  created : ∃ fresh, Normalizer.create s.height s.width = .ok fresh
  normalizer : pl.normalizer.Sized s.inputShape
  outputs_pos : 0 < p.classifier.outputs
  model : ∃ n b,
    Network.setup p s.inputShape ⟨backend⟩ (Bench.ofArena Arena.empty) = .ok n b
    ∧ pl.model.Runs n b.arena

variable {p : Parameters} {s : Settings} {backend : Backend} {pl : Pipeline}

-- =============================================================== scores

theorem onNormalizer_of_ok {α : Type} {step : Step Normalizer α}
    {n : Normalizer} {a : α} (h : step.runFrom pl.normalizer = (.ok a, n)) :
    onNormalizer step pl = .ok a { pl with normalizer := n } := by
  unfold onNormalizer
  rw [Step.runFrom_eq_ok_iff.1 h]

theorem onNormalizer_of_error {α : Type} {step : Step Normalizer α}
    {n : Normalizer} {e : Failure}
    (h : step.runFrom pl.normalizer = (.error e, n)) :
    onNormalizer step pl = .error e { pl with normalizer := n } := by
  unfold onNormalizer
  rw [Step.runFrom_eq_error_iff.1 h]

theorem onModel_of_ok {α : Type} {step : Step Model α} {m : Model} {a : α}
    (h : step pl.model = .ok a m) :
    onModel step pl = .ok a { pl with model := m } := by
  unfold onModel
  rw [h]

/-- What the settings bring frames to. -/
theorem Ready.picture (h : pl.Ready p s backend) : s.inputShape.Picture := by
  obtain ⟨fresh, hfresh⟩ := h.created
  obtain ⟨hpos, hsize, -⟩ := Normalizer.create_eq_ok_iff.1 hfresh
  exact ⟨rfl, hpos.1, hpos.2, hsize⟩

/-- A fresh normalizer makes of a frame what any normalizer of its size
makes of it. -/
theorem classify_eq {outcome : Outcome (Array Single)} {frame : Tensor UInt8}
    (hcreated : ∃ fresh, Normalizer.create s.height s.width = .ok fresh)
    (hfits : s.inputShape.Fits)
    (houtcome : ∀ (n : Normalizer) (out : Array Single),
      n.Sized s.inputShape → out.size = s.inputShape.volume → ∃ n',
        (Normalizer.run frame out).runFrom n = (outcome, n')
          ∧ n'.Sized s.inputShape) :
    p.classify s backend frame = (do
      let values ← outcome
      Outcome.ofOption (p.score? backend ⟨s.inputShape, values⟩)) := by
  obtain ⟨fresh, hfresh⟩ := hcreated
  obtain ⟨-, -, -, hfields⟩ := Normalizer.create_eq_ok_iff.1 hfresh
  have hsized : fresh.Sized s.inputShape := by
    rw [hfields]
    exact ⟨rfl, Array.size_replicate⟩
  obtain ⟨n', hrun, -⟩ :=
    houtcome fresh (Tensor.blank s.inputShape).data hsized Array.size_replicate
  unfold Parameters.classify
  rw [hfresh]
  show ((Normalizer.process frame).runFrom fresh).1 >>= _ = _
  rw [Normalizer.process_of_fits hsized hfits hrun]
  cases outcome with
  | error e => rfl
  | ok values => rfl

/-- A ready pipeline answers as the pure network, and is ready again. -/
theorem Ready.score_outcome (h : pl.Ready p s backend) (frame : Tensor UInt8) :
    ∃ pl', (score frame).runFrom pl = (p.classify s backend frame, pl')
      ∧ pl'.Ready p s backend := by
  obtain ⟨outcome, hsizes, houtcome⟩ := Normalizer.run_outcome h.picture frame
  obtain ⟨n, b, hsetup, hruns⟩ := h.model
  obtain ⟨-, hin, -⟩ := Network.setup_computes hsetup
  rw [classify_eq h.created (Network.fits_of_setup hsetup) houtcome]
  obtain ⟨t, ht, htshape, hts⟩ := hruns.covers _ _ hin
  have hdata : pl.model.arena.data? pl.model.network.input = some t.data := by
    rw [hruns.network_eq]
    exact Arena.data?_of_tensor? ht
  obtain ⟨normalizer, hrun, hsized⟩ :=
    houtcome pl.normalizer t.data h.normalizer (by rw [hts.size_eq, htshape])
  have hscore : score frame pl = (do
      let values ← onNormalizer (Normalizer.run frame t.data)
      onModel (Model.writeInput values)
      onModel Model.forward : Step Pipeline Single) pl := by
    unfold score
    rw [Step.get_bind]
    simp only [hdata]
    rw [Step.some_bind]
  -- a frame that is refused never gets as far as the input of the model
  cases outcome with
  | error e =>
      refine ⟨{ pl with normalizer := normalizer }, ?_,
        ⟨h.created, hsized, h.outputs_pos, n, b, hsetup, hruns⟩⟩
      apply Step.runFrom_eq_error_iff.2
      rw [hscore, Step.bind_of_error (onNormalizer_of_error hrun)]
  | ok values =>
      obtain ⟨score, model₁, model₂, hpure, hwrite, hforward, hruns', -⟩ :=
        Model.score_eq_ok hsetup h.outputs_pos hruns (hsizes values rfl)
      refine ⟨⟨normalizer, model₂⟩, ?_,
        ⟨h.created, hsized, h.outputs_pos, n, b, hsetup, hruns'⟩⟩
      show _ = (Outcome.ofOption (p.score? backend ⟨s.inputShape, values⟩), _)
      rw [hpure]
      have hwritten : onModel (Model.writeInput values) ⟨normalizer, pl.model⟩
          = .ok () ⟨normalizer, model₁⟩ := onModel_of_ok hwrite
      apply Step.runFrom_eq_ok_iff.2
      rw [hscore, Step.bind_of_ok (onNormalizer_of_ok hrun),
        Step.bind_of_ok hwritten]
      exact onModel_of_ok hforward

/-- A frame whose bytes are those of its shape is scored exactly when it has
three channels and a pixel. -/
theorem Ready.exists_classify_iff (h : pl.Ready p s backend)
    (hrows : s.height * Kernel.Sample.bytes ≤ Size.maxBytes)
    (hcolumns : s.width * Kernel.Sample.bytes ≤ Size.maxBytes)
    {frame : Tensor UInt8} (hframe : frame.shape.size? = some frame.data.size) :
    (∃ score, p.classify s backend frame = .ok score) ↔
      frame.shape.channels = rgbChannels ∧ 1 ≤ frame.shape.height
        ∧ 1 ≤ frame.shape.width := by
  obtain ⟨outcome, hsizes, houtcome⟩ := Normalizer.run_outcome h.picture frame
  obtain ⟨n, b, hsetup, hruns⟩ := h.model
  have hout : (Tensor.blank s.inputShape).data.size = s.inputShape.volume :=
    Array.size_replicate
  obtain ⟨normalizer, hrun, -⟩ := houtcome pl.normalizer _ h.normalizer hout
  rw [classify_eq h.created (Network.fits_of_setup hsetup) houtcome,
    ← Normalizer.run_eq_ok_iff h.picture h.normalizer hrows hcolumns
      hout hframe]
  cases outcome with
  | error e =>
      rw [Step.runFrom_eq_error_iff] at hrun
      rw [hrun]
      constructor
      · intro hall
        obtain ⟨score, hscore⟩ := hall
        cases hscore
      · intro hall
        obtain ⟨values, n', hvalues⟩ := hall
        cases hvalues
  | ok values =>
      obtain ⟨score, -, -, hpure, -⟩ :=
        Model.score_eq_ok hsetup h.outputs_pos hruns (hsizes values rfl)
      constructor
      · intro _
        exact ⟨values, normalizer, Step.runFrom_eq_ok_iff.1 hrun⟩
      · intro _
        refine ⟨score, ?_⟩
        show Outcome.ofOption (p.score? backend ⟨s.inputShape, values⟩) = _
        rw [hpure]
        rfl

-- =============================================================== set-up

variable {σ : Type}

/-- A model set up on a host is the model, whatever the world. -/
theorem exec_setupOn (p : Parameters) (shape : Shape) (handle : Handle)
    (w : World σ) :
    (Hosted.exec (Model.setupOn p shape handle) w).1
      = (Model.setup p shape handle).1 := by
  unfold Model.setupOn
  rw [Hosted.exec_bind_ok Hosted.exec_replay]
  rfl

/-- What a set-up comes to: the environment has its say on the preference,
and the engine gives a handle. -/
theorem exec_setup (p : Parameters) (s : Settings) (w : World σ) :
    (Hosted.exec (setup p s) w).1 = (do
      let preference ←
        (Preference.fromVariable w.host.environment.backend s.backend).mapError
          .error
      let normalizer ← Normalizer.create s.height s.width
      let model ←
        (Model.setup p s.inputShape (w.host.engine.acquire preference).1).1
      pure ⟨normalizer, model⟩) := by
  unfold setup
  cases hpreference : Preference.fromVariable w.host.environment.backend
    s.backend with
  | error e =>
      rw [Hosted.exec_bind_error
        (Hosted.exec_preference.trans (by rw [hpreference]; rfl))]
      rfl
  | ok preference =>
      rw [Hosted.exec_bind_ok
        (Hosted.exec_preference.trans (by rw [hpreference]; rfl))]
      rw [Hosted.exec_withHandle]
      show _ = (Normalizer.create s.height s.width >>= _)
      cases hcreate : Normalizer.create s.height s.width with
      | error e =>
          have hstop : Normalizer.create s.inputShape.height s.inputShape.width
              = .error e := hcreate
          rw [Hosted.exec_bind_error
            (Hosted.exec_ofOutcome.trans (by rw [hstop]))]
          rfl
      | ok normalizer =>
          have hgo : Normalizer.create s.inputShape.height s.inputShape.width
              = .ok normalizer := hcreate
          rw [Hosted.exec_bind_ok (Hosted.exec_ofOutcome.trans (by rw [hgo])),
            Hosted.exec_bind]
          show _ = (Model.setup p s.inputShape
            (w.host.engine.acquire preference).1).1 >>= _
          rw [← exec_setupOn p s.inputShape (w.host.engine.acquire preference).1
            (Hosted.exec (Hosted.acquire preference) w).2]
          cases Hosted.exec
            (Model.setupOn p s.inputShape (w.host.engine.acquire preference).1)
            (Hosted.exec (Hosted.acquire preference) w).2 with
          | mk outcome w' =>
              cases outcome with
              | error e => rfl
              | ok model => rfl

/-- What a set-up took: the preference that the environment and the settings
lead to, the normalizer and the model. -/
theorem setup_eq_ok_iff {w : World σ} :
    (Hosted.exec (setup p s) w).1 = .ok pl
      ↔ ∃ preference,
        Preference.fromVariable w.host.environment.backend s.backend
          = .ok preference
        ∧ Normalizer.create s.height s.width = .ok pl.normalizer
        ∧ (Model.setup p s.inputShape (w.host.engine.acquire preference).1).1
          = .ok pl.model := by
  rw [exec_setup]
  simp only [Outcome.bind_eq_ok_iff, Outcome.mapError_eq_ok_iff,
    Outcome.pure_eq_ok_iff]
  constructor
  · intro hall
    obtain ⟨preference, hpreference, normalizer, hcreate, model, hmodel, rfl⟩ :=
      hall
    exact ⟨preference, hpreference, hcreate, hmodel⟩
  · intro hall
    obtain ⟨preference, hpreference, hcreate, hmodel⟩ := hall
    exact ⟨preference, hpreference, _, hcreate, _, hmodel, rfl⟩

/-- A pipeline computes on the backend that the engine ran on when it was set
up, or else on the one that the preference leads to on its machine. -/
theorem backend_of_setup {w : World σ}
    (h : (Hosted.exec (setup p s) w).1 = .ok pl) :
    ∃ preference,
      Preference.fromVariable w.host.environment.backend s.backend
        = .ok preference
      ∧ pl.backend = w.host.engine.backend.getD
        (preference.backend w.host.engine.offered) := by
  obtain ⟨preference, hpreference, -, hmodel⟩ := setup_eq_ok_iff.1 h
  obtain ⟨b, hnetwork, -⟩ := Model.setup_eq_ok (Prod.ext hmodel rfl)
  refine ⟨preference, hpreference, ?_⟩
  rw [backend, Network.handle_of_setup hnetwork, Hosted.acquire_handle]

/-- A pipeline that was set up for declared weights is ready for them. -/
theorem ready_of_setup {w : World σ}
    (hdeclared : Parameters.declare s.architecture = .ok p.blank)
    (h : (Hosted.exec (setup p s) w).1 = .ok pl) : pl.Ready p s pl.backend := by
  obtain ⟨first, last, middle, hp⟩ := Parameters.declared_of_declare hdeclared
  obtain ⟨preference, -, hcreate, hmodel⟩ := setup_eq_ok_iff.1 h
  obtain ⟨-, -, -, hfields⟩ := Normalizer.create_eq_ok_iff.1 hcreate
  obtain ⟨b, hnetwork, harena⟩ := Model.setup_eq_ok (Prod.ext hmodel rfl)
  obtain ⟨hgrows, -⟩ := Network.setup_computes hnetwork
  constructor
  case created => exact ⟨pl.normalizer, hcreate⟩
  case normalizer =>
    rw [hfields]
    exact ⟨rfl, Array.size_replicate⟩
  case outputs_pos =>
    rw [hp.classifier.outputs_eq]
    exact Nat.one_pos
  case model =>
    refine ⟨pl.model.network, b, ?_, rfl, ?_⟩
    · rw [backend, Network.handle_of_setup hnetwork]
      exact hnetwork
    · rw [harena]
      exact Arena.covers_of_grows_empty hgrows

end Pipeline

end FireNet
