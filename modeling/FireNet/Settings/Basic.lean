/-
The settings of a classifier: where its weights are, what network they
belong to, how large the input is and which backend computes. Every
setting has a default; all defaults together describe the fire classifier
in use.
-/
import FireNet.Host
import FireNet.Weights.Parameters

set_option autoImplicit false

namespace FireNet

/-- What a classifier is set up from. -/
structure Settings where
  /-- The directory of parameter blobs. -/
  weightsDir : String
  architecture : Architecture
  height : Nat
  width : Nat
  backend : Preference
  deriving DecidableEq

namespace Settings

/-- The settings where nothing is stated. -/
def standard : Settings := ⟨"model", Architecture.reference, 224, 224, .auto⟩

/-- The environment variable that overrides the directory of weights. -/
def variableName : String := "FLAME_MODEL_PATH"

def inputShape (s : Settings) : Shape :=
  ⟨s.height, s.width, Parameters.inputChannels⟩

/-- Whether a network can be set up: the architecture is valid and the
input is not empty. -/
def validate (s : Settings) : Outcome Unit := do
  s.architecture.validate
  if s.height = 0 ∨ s.width = 0 then
    refuse (Error.config "input" (.zeroResolution s.height s.width))

/-- The settings with the directory that the environment states. -/
def override {m : Type → Type} [Monad m] (s : Settings) :
    Hosted m Settings := do
  match (← getThe Host).environment.modelPath with
  | none => pure s
  | some path =>
    report .info s!"{variableName} overrides weights_dir with {path}"
    pure { s with weightsDir := path }

end Settings

end FireNet
