/-
The classifier: a normalizer and a model that belong together. It is set
up from settings, which read the weights from their directory, and then
scores frames of any size.

A set-up that fails changes nothing. One that succeeds puts a new pipeline
in place of the old one, whose claims on the engine are given back only
then.
-/
import FireNet.Classifier.Verdict
import FireNet.Frame.Normalizer
import FireNet.Model.Basic
import FireNet.Settings.Basic
import FireNet.Weights.Store

set_option autoImplicit false

namespace FireNet

/-- What a frame passes through. -/
structure Pipeline where
  normalizer : Normalizer
  model : Model

namespace Pipeline

def claims (p : Pipeline) : Nat := p.model.network.claims

def onNormalizer {α : Type} (step : Step Normalizer α) :
    Step Pipeline α := fun p =>
  match step p.normalizer with
  | .ok a n => .ok a { p with normalizer := n }
  | .error e n => .error e { p with normalizer := n }

def onModel {α : Type} (step : Step Model α) : Step Pipeline α := fun p =>
  match step p.model with
  | .ok a m => .ok a { p with model := m }
  | .error e m => .error e { p with model := m }

def score (frame : Tensor UInt8) : Step Pipeline Single := do
  let model := (← get).model
  let old ← Step.ofOption (model.arena.data? model.network.input)
  let values ← onNormalizer (Normalizer.run frame old)
  onModel (Model.writeInput values)
  onModel Model.forward

/-- Set up for parameters, with the backend that the environment or the
settings ask for. -/
def setup {m : Type → Type} [Monad m] (p : Parameters) (s : Settings) :
    Hosted m Pipeline := do
  let preference ← Hosted.preference s.backend
  Hosted.withHandle preference fun handle => do
    let shape := s.inputShape
    let normalizer ←
      Hosted.ofOutcome (Normalizer.create shape.height shape.width)
    let model ← Model.setupOn p shape handle
    pure ⟨normalizer, model⟩

end Pipeline

/-- A classifier; it has a pipeline once it is set up. -/
structure Classifier where
  pipeline : Option Pipeline

namespace Classifier

def empty : Classifier := ⟨none⟩

def isReady (c : Classifier) : Bool := c.pipeline.isSome

def claims (c : Classifier) : Nat := (c.pipeline.map Pipeline.claims).getD 0

section

variable {m : Type → Type} [Monad m]

/-- The classifier with another pipeline, set up for given parameters. -/
def rebuild (c : Classifier) (p : Parameters) (s : Settings) :
    Hosted m Classifier := do
  let pipeline ← Pipeline.setup p s
  Hosted.release c.claims
  pure ⟨some pipeline⟩

/-- The classifier set up from settings, weights included. -/
def setup [Disk m] (c : Classifier) (s : Settings) : Hosted m Classifier := do
  Hosted.ofOutcome s.validate
  let p ← Hosted.ofOutcome (Parameters.declare s.architecture)
  report .info s!"loading classifier weights from {s.weightsDir}"
  let p ← Hosted.ofReported (p.loadFrom s.weightsDir)
  c.rebuild p s

end

def process (frame : Tensor UInt8) : Step Classifier Single := fun c =>
  match c.pipeline with
  | none => .error (.error (.config "classifier" .notReady)) c
  | some p =>
    match Pipeline.score frame p with
    | .ok score p => .ok score ⟨some p⟩
    | .error e p => .error e ⟨some p⟩

end Classifier

end FireNet
