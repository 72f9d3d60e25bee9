/-
Where parameter values come from, and how they are loaded.

A source fills named buffers of known length; it may keep a state, and it
may leave a buffer half written when it fails. Loading asks for the blobs
in load order, each into a copy of the old values, and stops at the first
failure. The values are kept only when all requests succeeded, so a failed
load changes nothing.
-/
import FireNet.Journal
import FireNet.Weights.Parameters

set_option autoImplicit false

namespace FireNet

/-- Something that fills named buffers. It answers with the buffer as it
left it, of the same length, whether it succeeded or not. -/
structure BlobSource (m : Type → Type) where
  fill (name : String) {n : Nat} (buffer : Vector Single n) :
    Reporting m (Outcome Unit × Vector Single n)

variable {m : Type → Type} [Monad m]

/-- Requests one blob. -/
def BlobSource.request (source : BlobSource m) (key : BlobKey)
    (old : Array Single) : Reported m (Array Single) := do
  report .debug s!"loading {key.name} ({old.size} floats)"
  let (outcome, buffer) ← source.fill key.name old.toVector
  match outcome with
  | .ok () => pure buffer.toArray
  | .error e => throw e

def BlobSource.requestLayer (source : BlobSource m) (address : LayerAddress)
    (layer : Layer) : Reported m Layer := do
  let weights ← source.request (BlobKey.weight address) layer.weights
  match layer.bias with
  | none => pure { layer with weights := weights }
  | some old =>
    let bias ← source.request (BlobKey.bias address) old
    pure { layer with weights := weights, bias := some bias }

/-- The parameters with every blob filled from a source. -/
def Parameters.load (source : BlobSource m) (p : Parameters) :
    Reported m Parameters := do
  let loaded ← p.traverse source.requestLayer
  let count := loaded.manifest.length
  report .info s!"loaded {count} parameter blobs ({loaded.elements} floats)"
  pure loaded

/-- Loading into parameters that someone holds: what they hold afterwards
is what was loaded, or what they held before. -/
def Parameters.reload (source : BlobSource m) (p : Parameters) :
    Reporting m (Outcome Unit × Parameters) := do
  match ← (p.load source).run with
  | .ok loaded => pure (.ok (), loaded)
  | .error failure => pure (.error failure, p)

end FireNet
