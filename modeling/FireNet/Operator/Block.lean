/-
Blocks: the repeated unit of the network, and the branches inside.

A downsampling block feeds its input to both branches. A block that keeps
the size splits its input by channel: the first half passes through, the
second half goes through the main branch. Either way the two half-width
results are interleaved.

Branches and blocks only bind primitives and replay them in order. Their
names extend the path: `s3r0` is the first block of stage 3, and
`s3r0.branch2.conv1` the second primitive of its main branch.
-/
import FireNet.Layer.Block
import FireNet.Operator.Channels
import FireNet.Operator.Primitive

set_option autoImplicit false

namespace FireNet

-- ============================================================= branches

/-- Binds a convolution of either kind to a new output tensor, of the size
that its window gives. -/
def Binding.convolve (name : String) (kind : Layer → Action) (layer : Layer)
    (input : TensorId) (handle : Handle) : Binding Primitive := do
  let image ← Binding.shapeOf input
  let (height, width) ←
    Step.ofOutcome (Check.windowOutput name layer.window image)
  let output ← Binding.alloc ⟨height, width, layer.outputs⟩
  Primitive.setup name (kind layer) input output handle

/-- The side branch: a depthwise convolution with stride, then a pointwise
one. -/
structure SideBranch where
  name : String
  depthwise : Primitive
  pointwise : Primitive

namespace SideBranch

def setup (name : String) (input : TensorId) (layers : SideLayers)
    (handle : Handle) :
    Binding SideBranch := Binding.balanced do
  let depthwise ← Binding.convolve s!"{name}.conv0" .depthwise layers.depthwise
    input handle
  let pointwise ←
    Binding.convolve s!"{name}.conv1" .convolution layers.pointwise
      depthwise.output handle
  pure ⟨name, depthwise, pointwise⟩

def output (b : SideBranch) : TensorId := b.pointwise.output

def primitives (b : SideBranch) : List Primitive := [b.depthwise, b.pointwise]

def forward (b : SideBranch) : Step Arena Unit := do
  b.depthwise.forward
  b.pointwise.forward

end SideBranch

/-- The main branch: pointwise, depthwise with stride, pointwise. -/
structure MainBranch where
  name : String
  reduce : Primitive
  depthwise : Primitive
  expand : Primitive

namespace MainBranch

def setup (name : String) (input : TensorId) (layers : MainLayers)
    (handle : Handle) :
    Binding MainBranch := Binding.balanced do
  let reduce ← Binding.convolve s!"{name}.conv0" .convolution layers.reduce
    input handle
  let depthwise ← Binding.convolve s!"{name}.conv1" .depthwise layers.depthwise
    reduce.output handle
  let expand ← Binding.convolve s!"{name}.conv2" .convolution layers.expand
    depthwise.output handle
  pure ⟨name, reduce, depthwise, expand⟩

def output (b : MainBranch) : TensorId := b.expand.output

def primitives (b : MainBranch) : List Primitive :=
  [b.reduce, b.depthwise, b.expand]

def forward (b : MainBranch) : Step Arena Unit := do
  b.reduce.forward
  b.depthwise.forward
  b.expand.forward

end MainBranch

-- =============================================================== blocks

/-- The two ways through a block. -/
inductive BlockPath where
  /-- Both branches read the input. -/
  | downsample (side : SideBranch) (main : MainBranch)
  /-- The main branch reads the second half, the first half passes. -/
  | keep (split : Split) (main : MainBranch)

namespace BlockPath

/-- The tensor woven into the even channels. -/
def first : BlockPath → TensorId
  | downsample side _ => side.output
  | keep split _ => split.first

/-- The tensor woven into the odd channels. -/
def second : BlockPath → TensorId
  | downsample _ main => main.output
  | keep _ main => main.output

def primitives : BlockPath → List Primitive
  | downsample side main => side.primitives ++ main.primitives
  | keep _ main => main.primitives

def forward : BlockPath → Step Arena Unit
  | downsample side main => do
    side.forward
    main.forward
  | keep split main => do
    split.forward
    main.forward

end BlockPath

/-- One unit of a stage. -/
structure Block where
  name : String
  path : BlockPath
  shuffle : Interleave

namespace Block

/-- Binds the path that the stride asks for. -/
def setupPath (name : String) (input : TensorId) (inShape : Shape)
    (layers : BlockLayers) (handle : Handle) : Binding BlockPath := do
  match layers.stride, layers.side with
  | 0, _ => refuse (Error.engine name .zeroStride)
  | 1, none =>
    if layers.inputs ≠ layers.outputs then
      refuse (Error.config name (.widthChange layers.inputs layers.outputs))
    let half := inShape.withChannels (inShape.channels / 2)
    let a ← Binding.alloc half
    let b ← Binding.alloc half
    let split ← Split.setup s!"{name}.split" input a b
    let main ← MainBranch.setup s!"{name}.branch2" b layers.main handle
    pure (.keep split main)
  | 1, some _ => refuse (Error.config name (.strideAgainstBranch 1 true))
  | stride, none =>
    refuse (Error.config name (.strideAgainstBranch stride false))
  | _, some sideLayers =>
    let side ← SideBranch.setup s!"{name}.branch1" input sideLayers handle
    let main ← MainBranch.setup s!"{name}.branch2" input layers.main handle
    pure (.downsample side main)

def setup (name : String) (input : TensorId) (layers : BlockLayers)
    (handle : Handle) :
    Binding Block := Binding.balanced do
  let inShape ← Binding.shapeOf input
  if inShape.channels ≠ layers.inputs then
    refuse (Error.config name (.blockInput inShape layers.inputs))
  if layers.outputs = 0 ∨ layers.outputs % 2 ≠ 0 then
    refuse (Error.config name (.oddBlockWidth layers.outputs))
  let path ← setupPath name input inShape layers handle
  let half ← Binding.shapeOf path.first
  let outShape := half.withChannels layers.outputs
  let output ← Binding.alloc outShape
  let shuffle ←
    Interleave.setup s!"{name}.shuffle" path.first path.second output
  let kind := if layers.isDownsample then "downsample" else "identity"
  Binding.note .debug s!"{name}: {kind} block {inShape} -> {outShape}"
  pure ⟨name, path, shuffle⟩

def output (b : Block) : TensorId := b.shuffle.output

/-- Whether both branches read the input. -/
def isDownsample (b : Block) : Bool :=
  match b.path with
  | .downsample .. => true
  | .keep .. => false

def primitives (b : Block) : List Primitive := b.path.primitives

def forward (b : Block) : Step Arena Unit := do
  b.path.forward
  b.shuffle.forward

end Block

end FireNet
