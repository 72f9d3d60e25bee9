/-
Filling parameters with reproducible values, for runs without trained
weights. Weights are drawn between bounds that shrink with the number of
inputs of an output; one generator runs through all layers in load order.
-/
import FireNet.Numeric.Generator
import FireNet.Weights.Parameters

set_option autoImplicit false

namespace FireNet

/-- The largest size of a random bias: 0.05. -/
def biasBound : Single := ⟨0x3d4ccccd⟩

namespace Layer

/-- How many values flow into one output. -/
def fanIn (l : Layer) : Nat := max (l.weights.size / max l.outputs 1) 1

/-- The bound of its random weights. -/
def weightBound (l : Layer) : Single :=
  (Single.one / Single.ofSize l.fanIn).sqrt

variable {γ : Type}

/-- Overwrites all weights, then all biases. -/
def randomize (s : Sampler γ) (l : Layer) : StateM γ Layer := fun g =>
  let bound := l.weightBound
  let (weights, g) := s.draws (-bound) bound l.weights.size g #[]
  match l.bias with
  | none => ({ l with weights := weights }, g)
  | some old =>
    let (bias, g) := s.draws (-biasBound) biasBound old.size g #[]
    ({ l with weights := weights, bias := some bias }, g)

end Layer

namespace Parameters

/-- Overwrites all values of all layers, from a seed. -/
def randomizeWith {γ : Type} (s : Sampler γ) (seed : UInt64) (p : Parameters) :
    Parameters :=
  let visits : StateM γ Parameters :=
    p.traverse fun _ layer => layer.randomize s
  (visits (s.start seed)).1

/-- Overwrites all values of all layers with uniform draws, from a seed. -/
def randomize (seed : UInt64) (p : Parameters) : Parameters :=
  p.randomizeWith Sampler.uniform seed

end Parameters

end FireNet
