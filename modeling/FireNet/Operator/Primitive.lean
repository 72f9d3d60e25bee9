/-
Primitive operators: one kernel bound to one input and one output tensor.

`Action` says what is computed. Its check is the only validation there is:
it compares the two shapes, the layer and the window before anything runs,
and the first mismatch decides the error. `Primitive.forward` then only
replays the kernel, on the backend of the handle it was bound with.
-/
import FireNet.Graph.Bench
import FireNet.Kernel.Affine
import FireNet.Kernel.Pooling
import FireNet.Layer.Basic

set_option autoImplicit false

namespace FireNet

-- =============================================================== checks

namespace Check

variable (op : String)

/-- A tensor has exactly the expected channels, and at least one. -/
def channels (port : Port) (shape : Shape) (expected : Nat) : Outcome Unit :=
  if expected = 0 ∨ shape.channels = 0 then
    refuse (Error.config op (.noChannels port shape))
  else if shape.channels ≠ expected then
    refuse (Error.config op (.channelCount port shape expected))
  else pure ()

/-- The output extent of a window over an input; the engine refuses a
window that does not fit. -/
def windowOutput (window : Window) (input : Shape) : Outcome (Nat × Nat) := do
  match ← Outcome.ofOption (window.output? input.height input.width) with
  | some extent => pure extent
  | none => refuse (Error.engine op (.unsupportedWindow window input))

/-- The output tensor has the computed extent. -/
def extent (computed : Nat × Nat) (output : Shape) : Outcome Unit :=
  if computed = (output.height, output.width) then pure ()
  else refuse (Error.config op (.outputExtent output computed.1 computed.2))

/-- The weights are of the given number, and a bias has a value for each
output. -/
def parameterCounts (layer : Layer) (weights : Nat) : Outcome Unit := do
  if layer.weights.size ≠ weights then
    refuse (Error.config op (.weightCount layer.weights.size weights))
  match layer.bias with
  | none => pure ()
  | some bias =>
    if bias.size ≠ layer.outputs then
      refuse (Error.config op (.biasCount bias.size layer.outputs))

/-- The window has no dilation. -/
def undilated (window : Window) : Outcome Unit :=
  if window.vertical.dilation ≠ 1 ∨ window.horizontal.dilation ≠ 1 then
    refuse (Error.engine op .dilated)
  else pure ()

end Check

-- ============================================================== actions

/-- What a primitive computes. -/
inductive Action where
  | convolution (layer : Layer)
  | depthwise (layer : Layer)
  | maxPool (window : Window)
  | meanPool
  | fullyConnected (layer : Layer)

namespace Action

/-- The parameters of an action, if it has any. -/
def layer? : Action → Option Layer
  | convolution layer => some layer
  | depthwise layer => some layer
  | maxPool _ => none
  | meanPool => none
  | fullyConnected layer => some layer

/-- Whether an action may be bound to an input and an output of these
shapes. -/
def check (op : String) (input output : Shape) : Action → Outcome Unit
  | convolution layer => do
    let w := layer.window
    Check.channels op .input input layer.inputs
    Check.channels op .output output layer.outputs
    Check.undilated op w
    Check.extent op (← Check.windowOutput op w input) output
    let weights ← Outcome.ofOption do
      let a ← Size.mul layer.outputs w.vertical.kernel
      let b ← Size.mul a w.horizontal.kernel
      Size.mul b layer.inputs
    Check.parameterCounts op layer weights
  | depthwise layer => do
    let w := layer.window
    if layer.inputs ≠ layer.outputs then
      refuse (Error.config op (.unevenDepthwise layer.inputs layer.outputs))
    Check.channels op .input input layer.inputs
    Check.channels op .output output layer.outputs
    Check.undilated op w
    Check.extent op (← Check.windowOutput op w input) output
    let weights ← Outcome.ofOption do
      let a ← Size.mul layer.outputs w.vertical.kernel
      Size.mul a w.horizontal.kernel
    Check.parameterCounts op layer weights
  | maxPool w => do
    Check.channels op .output output input.channels
    let computed ← Check.windowOutput op w input
    let (rows, columns) ← Outcome.ofOption w.extents?
    if rows ≤ w.vertical.padding ∨ columns ≤ w.horizontal.padding then
      refuse (Error.engine op
        (.paddingCovers w.vertical.padding w.horizontal.padding rows columns))
    Check.extent op computed output
  | meanPool => do
    if (← Outcome.ofOption input.positions?) = 0 then
      refuse (Error.engine op (.emptyInput input))
    Check.channels op .output output input.channels
    Check.extent op (1, 1) output
  | fullyConnected layer => do
    if layer.inputs = 0 then
      refuse (Error.config op (.noFeatures input))
    let inputs ← Outcome.ofOption input.size?
    if inputs ≠ layer.inputs then
      refuse (Error.config op (.featureCount .input input inputs layer.inputs))
    let outputs ← Outcome.ofOption output.size?
    if outputs ≠ layer.outputs then
      refuse (Error.config op
        (.featureCount .output output outputs layer.outputs))
    Check.parameterCounts op layer
      (← Outcome.ofOption (Size.mul layer.outputs layer.inputs))

/-- The report of a bound action. -/
def summary (op : String) (input output : Shape) : Action → String
  | convolution layer =>
    let w := layer.window
    s!"{op}: conv {w.vertical.kernel}x{w.horizontal.kernel}" ++
      s!"/{w.vertical.stride} {input} -> {output} ({layer.activation.text})"
  | depthwise layer =>
    let w := layer.window
    s!"{op}: dwconv {w.vertical.kernel}x{w.horizontal.kernel}" ++
      s!"/{w.vertical.stride} {input} -> {output}"
  | maxPool w =>
    s!"{op}: maxpool {w.vertical.kernel}x{w.horizontal.kernel}" ++
      s!"/{w.vertical.stride} {input} -> {output}"
  | meanPool => s!"{op}: global average pool {input} -> {output}"
  | fullyConnected layer =>
    s!"{op}: fully connected {layer.inputs} -> {layer.outputs} " ++
      s!"({layer.activation.text})"

/-- The kernel of an action: the new content of the output. Convolutions over
all channels and fully connected layers take inner products, which the
backend decides on; the others have sums of one order only. -/
def compute? (backend : Backend) (input : Array Single)
    (inShape outShape : Shape) (out : Array Single) :
    Action → Option (Array Single)
  | convolution layer => layer.filter.convolve? input inShape
      outShape out backend
  | depthwise layer => layer.filter.depthwise? input inShape outShape out
  | maxPool w => Kernel.maxPool? w input inShape outShape out
  | meanPool => Kernel.meanPool? input inShape out
  | fullyConnected layer =>
    Kernel.affine? layer.weights layer.bias layer.activation input out backend

end Action

-- =========================================================== primitives

/-- A kernel bound to arena tensors. It holds one claim on the engine. -/
structure Primitive where
  name : String
  action : Action
  input : TensorId
  output : TensorId
  inShape : Shape
  outShape : Shape
  handle : Handle

namespace Primitive

def setup (name : String) (action : Action) (input output : TensorId)
    (handle : Handle) : Binding Primitive := do
  let inShape ← Binding.shapeOf input
  let outShape ← Binding.shapeOf output
  Step.ofOutcome (action.check name inShape outShape)
  Binding.note .debug (action.summary name inShape outShape)
  Binding.emit .claim
  pure ⟨name, action, input, output, inShape, outShape, handle⟩

def forward (p : Primitive) : Step Arena Unit := do
  Arena.checkBound p.name p.input p.inShape
  Arena.checkBound p.name p.output p.outShape
  Arena.withOutput p.output fun arena out => do
    let input ← arena.data? p.input
    let data ← p.action.compute? p.handle.backend input p.inShape p.outShape out
    some ((), data)

end Primitive

end FireNet
