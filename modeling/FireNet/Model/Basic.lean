/-
Models: a network bound in an arena of its own, ready to score inputs.
-/
import FireNet.Host
import FireNet.Model.Network

set_option autoImplicit false

namespace FireNet

/-- A network with the arena that it is bound to. -/
structure Model where
  network : Network
  arena : Arena

namespace Model

/-- Binds a network in an arena of its own; also the events of the set-up,
whether it succeeded or not. -/
def setup (p : Parameters) (inShape : Shape) (handle : Handle) :
    Outcome Model × Array Event :=
  let (outcome, bench) :=
    (Network.setup p inShape handle).runFrom (Bench.ofArena Arena.empty)
  (outcome.map fun network => ⟨network, bench.arena⟩, bench.events)

section

variable {m : Type → Type} [Monad m]

def setupOn (p : Parameters) (inShape : Shape) (handle : Handle) :
    Hosted m Model := do
  let (outcome, events) := setup p inShape handle
  Hosted.replay events
  Hosted.ofOutcome outcome

/-- Binds a network with the backend that the environment asks for. -/
def setupAlone (p : Parameters) (inShape : Shape) : Hosted m Model := do
  let preference ← Hosted.preference .auto
  Hosted.withHandle preference (setupOn p inShape)

end

def inputShape? (model : Model) : Option Shape :=
  model.arena.shape? model.network.input

def onArena {α : Type} (step : Network → Step Arena α) :
    Step Model α := fun model =>
  match step model.network model.arena with
  | .ok a arena => .ok a { model with arena := arena }
  | .error e arena => .error e { model with arena := arena }

/-- Overwrites the input; a fault when the number of values differs. -/
def writeInput (values : Array Single) : Step Model Unit :=
  onArena fun network => Arena.write network.input values

/-- The score of the current input. -/
def forward : Step Model Single := onArena Network.forward

/-- The score of a tensor, which must have the shape of the input. -/
def forwardWith (t : Tensor Single) : Step Model Single := do
  let expected ← Step.ofOption (← get).inputShape?
  if t.shape ≠ expected then
    refuse (Error.config "input" (.modelInput t.shape expected))
  writeInput t.data
  forward

end Model

end FireNet
