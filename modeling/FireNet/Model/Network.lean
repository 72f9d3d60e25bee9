/-
The network: stem convolution, max pool, the stages, head convolution, the
mean over all positions and a fully connected layer with one output, whose
value is the score.

Binding allocates every tensor and binds every operator once. A pass then
replays them in that order, each reading what the one before it wrote.
-/
import FireNet.Numeric.Fixed
import FireNet.Operator.Basic
import FireNet.Weights.Parameters

set_option autoImplicit false

namespace FireNet

structure Network where
  input : TensorId
  stem : Primitive
  pool : Primitive
  stages : List Stage
  head : Primitive
  mean : Primitive
  classifier : Primitive
  handle : Handle

namespace Network

/-- The window of the max pool after the stem. -/
def poolWindow : Window := Window.square 3 2 1

/-- Binds stages numbered from `number`; the tensor is the result of the
last one, or the input when there is none. -/
def setupStages (handle : Handle) :
    (number : Nat) → (input : TensorId) → List StageLayers →
    Binding (List Stage × TensorId)
  | _, input, [] => pure ([], input)
  | number, input, layers :: rest => do
    let stage ← Stage.setup number input layers handle
    let (later, result) ← setupStages handle (number + 1) stage.output rest
    pure (stage :: later, result)

def readyText (inShape : Shape) (stages : List Stage) (arena : Arena)
    (handle : Handle) : String :=
  let blocks := (stages.flatMap Stage.blocks).length
  let mebibytes := fixedQuotient arena.footprint 0x100000 1
  s!"model ready: input {inShape}, " ++
    s!"{stages.length} stages / {blocks} blocks, " ++
    s!"{arena.tensors.size} tensors ({mebibytes} MiB), " ++
    s!"backend={handle.backend.name}"

/-- Binds the network for inputs of one shape. The network itself claims
the engine once, besides its primitives. -/
def setup (p : Parameters) (inShape : Shape) (handle : Handle) :
    Binding Network :=
    Binding.balanced do
  let input ← Binding.alloc inShape
  let stem ← Binding.convolve "c1" .convolution p.stem input handle
  let stemShape ← Binding.shapeOf stem.output
  let (height, width) ←
    Step.ofOutcome (Check.windowOutput "pool" poolWindow stemShape)
  let pooled ← Binding.alloc ⟨height, width, p.stem.outputs⟩
  let pool ←
    Primitive.setup "pool" (.maxPool poolWindow) stem.output pooled handle
  let (stages, last) ← setupStages handle 2 pooled p.stages
  let lastShape ← Binding.shapeOf last
  let headOut ← Binding.alloc (lastShape.withChannels p.head.outputs)
  let head ← Primitive.setup "c5" (.convolution p.head) last headOut handle
  let meanOut ← Binding.alloc ⟨1, 1, p.head.outputs⟩
  let mean ← Primitive.setup "gap" .meanPool headOut meanOut handle
  let scoreOut ← Binding.alloc ⟨1, 1, p.classifier.outputs⟩
  let classifier ←
    Primitive.setup "fc" (.fullyConnected p.classifier) meanOut scoreOut handle
  Binding.note .info (readyText inShape stages (← get).arena handle)
  Binding.emit .claim
  pure ⟨input, stem, pool, stages, head, mean, classifier, handle⟩

def primitives (n : Network) : List Primitive :=
  [n.stem, n.pool] ++ n.stages.flatMap Stage.primitives
    ++ [n.head, n.mean, n.classifier]

def claims (n : Network) : Nat := n.primitives.length + 1

def forwardStages : List Stage → Step Arena Unit
  | [] => pure ()
  | s :: rest => do
    s.forward
    forwardStages rest

/-- One pass over the current input; the result is the score. -/
def forward (n : Network) : Step Arena Single := do
  n.stem.forward
  n.pool.forward
  forwardStages n.stages
  n.head.forward
  n.mean.forward
  n.classifier.forward
  let output ← Step.ofOption ((← get).data? n.classifier.output)
  match output[0]? with
  | some score => pure score
  | none => refuse (Error.engine "fc" .noOutput)

end Network

end FireNet
