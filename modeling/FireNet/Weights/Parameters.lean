/-
The parameters of a whole network, and the two ways through them.

`layers` lists every layer with its address in load order: stem, head and
classifier, then stage after stage, block after block, the side branch
before the main one. `traverse` visits them in that order and puts a layer
in place of each. Loading, random fill and the manifest all go through one
of the two, so they agree on the order.
-/
import FireNet.Layer.Block
import FireNet.Weights.Architecture
import FireNet.Weights.Key

set_option autoImplicit false

namespace FireNet

structure Parameters where
  architecture : Architecture
  stem : Layer
  head : Layer
  classifier : Layer
  stages : List StageLayers
  deriving DecidableEq

-- ============================================================== listing

namespace BlockLayers

/-- The layers of a block with their addresses, in load order. -/
def addressed (stage repetition : Nat) (b : BlockLayers) :
    List (LayerAddress × Layer) :=
  let place (branch : BranchNumber) (index : Nat) : LayerAddress :=
    .block stage repetition branch index
  let side := match b.side with
    | none => []
    | some s => [(place .one 0, s.depthwise), (place .one 1, s.pointwise)]
  side ++ [(place .two 0, b.main.reduce), (place .two 1, b.main.depthwise),
    (place .two 2, b.main.expand)]

/-- The layers of blocks numbered from `repetition`. -/
def addressedFrom (stage : Nat) : (repetition : Nat) → List BlockLayers →
    List (LayerAddress × Layer)
  | _, [] => []
  | repetition, b :: rest =>
    b.addressed stage repetition ++ addressedFrom stage (repetition + 1) rest

end BlockLayers

namespace StageLayers

/-- The layers of stages numbered from `stage`. -/
def addressedFrom :
    (stage : Nat) → List StageLayers → List (LayerAddress × Layer)
  | _, [] => []
  | stage, s :: rest =>
    BlockLayers.addressedFrom stage 0 s.blocks ++ addressedFrom (stage + 1) rest

end StageLayers

namespace Parameters

/-- Every layer with its address, in load order. -/
def layers (p : Parameters) : List (LayerAddress × Layer) :=
  (.stem, p.stem) :: (.head, p.head) :: (.classifier, p.classifier) ::
    StageLayers.addressedFrom 2 p.stages

/-- The blobs of one layer with their element counts, weights first. -/
def blobs (address : LayerAddress) (layer : Layer) :
    List (BlobKey × Array Single) :=
  (BlobKey.weight address, layer.weights) ::
    (match layer.bias with
      | some bias => [(BlobKey.bias address, bias)]
      | none => [])

/-- Every blob with its values, in load order. -/
def allBlobs (p : Parameters) : List (BlobKey × Array Single) :=
  p.layers.flatMap fun (address, layer) => blobs address layer

/-- Every blob with its element count, in load order. -/
def manifest (p : Parameters) : List (BlobKey × Nat) :=
  p.allBlobs.map fun (key, values) => (key, values.size)

def elements (p : Parameters) : Nat :=
  (p.layers.map fun (_, layer) => layer.elements).foldl (· + ·) 0

/-- Equality of values; see `Layer.equal`. -/
def equal (p q : Parameters) : Bool :=
  let same (a b : StageLayers) : Bool :=
    a.blocks.length == b.blocks.length
      && (a.blocks.zip b.blocks).all fun (x, y) =>
      x.outputs == y.outputs && x.inputs == y.inputs && x.stride == y.stride &&
        x.side.isSome == y.side.isSome
  p.architecture == q.architecture && p.stages.length == q.stages.length &&
    ((p.stages.zip q.stages).all fun (a, b) => same a b) &&
    (p.layers.zip q.layers).all fun ((_, a), (_, b)) => a.equal b

end Parameters

-- ============================================================ traversal

section Traversal

variable {m : Type → Type} [Monad m]

def SideLayers.traverse (visit : Nat → Layer → m Layer) (s : SideLayers) :
    m SideLayers := do
  let depthwise ← visit 0 s.depthwise
  let pointwise ← visit 1 s.pointwise
  pure ⟨depthwise, pointwise⟩

/-- Visits the layers of a main branch, each with its index. -/
def MainLayers.traverse (visit : Nat → Layer → m Layer) (s : MainLayers) :
    m MainLayers := do
  let reduce ← visit 0 s.reduce
  let depthwise ← visit 1 s.depthwise
  let expand ← visit 2 s.expand
  pure ⟨reduce, depthwise, expand⟩

variable (visit : LayerAddress → Layer → m Layer)

def BlockLayers.traverse (stage repetition : Nat) (b : BlockLayers) :
    m BlockLayers := do
  let side ← match b.side with
    | none => pure none
    | some s => do
      let s ← s.traverse fun index => visit (.block stage repetition .one index)
      pure (some s)
  let main ←
    b.main.traverse fun index => visit (.block stage repetition .two index)
  pure { b with side := side, main := main }

/-- Visits the layers of blocks numbered from `repetition`. -/
def BlockLayers.traverseFrom (stage : Nat) :
    (repetition : Nat) → List BlockLayers →
    m (List BlockLayers)
  | _, [] => pure []
  | repetition, b :: rest => do
    let b ← b.traverse visit stage repetition
    let rest ← BlockLayers.traverseFrom stage (repetition + 1) rest
    pure (b :: rest)

def StageLayers.traverse (stage : Nat) (s : StageLayers) : m StageLayers := do
  let blocks ← BlockLayers.traverseFrom visit stage 0 s.blocks
  pure ⟨blocks⟩

/-- Visits the layers of stages numbered from `stage`. -/
def StageLayers.traverseFrom :
    (stage : Nat) → List StageLayers → m (List StageLayers)
  | _, [] => pure []
  | stage, s :: rest => do
    let s ← s.traverse visit stage
    let rest ← StageLayers.traverseFrom (stage + 1) rest
    pure (s :: rest)

/-- Visits every layer in load order and keeps what the visits return. -/
def Parameters.traverse (p : Parameters) : m Parameters := do
  let stem ← visit .stem p.stem
  let head ← visit .head p.head
  let classifier ← visit .classifier p.classifier
  let stages ← StageLayers.traverseFrom visit 2 p.stages
  pure { p with
    stem := stem, head := head, classifier := classifier, stages := stages }

end Traversal

-- ========================================================== declaration

namespace Parameters

/-- The channels of an input image. -/
def inputChannels : Nat := 3

/-- Zeros for the stages, given the width before them and their own. -/
def declareStages? :
    (inputs : Nat) → List (Nat × Nat) → Option (List StageLayers)
  | _, [] => some []
  | inputs, (repeats, width) :: rest => do
    let stage ← StageLayers.declare? repeats width inputs
    let later ← declareStages? width rest
    some (stage :: later)

/-- Zeros for an architecture, once it is valid. -/
def declare (a : Architecture) : Outcome Parameters := do
  a.validate
  let stemWidth := a.widths.headD 0
  let headWidth := a.widths.getLastD 0
  let lastWidth := a.widths.dropLast.getLastD 0
  Outcome.ofOption do
    let stages ← declareStages? stemWidth (a.repeats.zip a.stageWidths)
    let stem ← Layer.convolution? stemWidth inputChannels 3 2 1 .relu
    let head ← Layer.pointwise? headWidth lastWidth .relu
    let classifier ← Layer.fullyConnected? 1 headWidth .identity
    some ⟨a, stem, head, classifier, stages⟩

/-- Zeros for the fire classifier in use. -/
def reference : Outcome Parameters := declare Architecture.reference

end Parameters

end FireNet
